import ScriptSplit.Text.Basic

namespace ScriptSplit.Text

abbrev Bytes := List UInt8

def encodeChar (c : Char) : Bytes := String.utf8EncodeChar c

def encode (t : Text) : Bytes := t.flatMap encodeChar

inductive Utf8Flaw where
  | start
  | continuation
  | truncated
  deriving DecidableEq, Repr

def Utf8Flaw.reason : Utf8Flaw → String
  | .start => "invalid start byte"
  | .continuation => "invalid continuation byte"
  | .truncated => "unexpected end of data"

structure Utf8Error where
  offset : Nat
  bytes : Bytes
  flaw : Utf8Flaw
  deriving DecidableEq, Repr

def hexByte (b : UInt8) : String :=
  let digits := Nat.toDigits 16 b.toNat
  "0x" ++ String.ofList (List.replicate (2 - digits.length) '0' ++ digits)

def Utf8Error.message (e : Utf8Error) : String :=
  match e.bytes with
  | [b] => s!"'utf-8' codec can't decode byte {hexByte b} in position {e.offset}: {e.flaw.reason}"
  | bs =>
      s!"'utf-8' codec can't decode bytes in position {e.offset}-{e.offset + bs.length - 1}: " ++
        e.flaw.reason

def isContinuation (b : UInt8) : Bool := 0x80 ≤ b && b ≤ 0xBF

/-- Whether a second byte may follow a first one: it must not make a character that fits in fewer
bytes, a surrogate, or a code point that is too large. -/
def isSecond (a b : UInt8) : Bool :=
  isContinuation b &&
    if a == 0xE0 then 0xA0 ≤ b
    else if a == 0xED then b < 0xA0
    else if a == 0xF0 then 0x90 ≤ b
    else if a == 0xF4 then b < 0x90
    else true

def followers (a : UInt8) : Option Nat :=
  if a < 0x80 then some 0
  else if a < 0xC2 then none
  else if a < 0xE0 then some 1
  else if a < 0xF0 then some 2
  else if a < 0xF5 then some 3
  else none

def charOf (a : UInt8) (rest : Bytes) : Char :=
  let high := match rest.length with
    | 0 => a.toNat
    | 1 => a.toNat % 0x20
    | 2 => a.toNat % 0x10
    | _ => a.toNat % 0x08
  Char.ofNat (rest.foldl (fun n b => n * 0x40 + b.toNat % 0x40) high)

def goodFollowers (a : UInt8) (rest : Bytes) : Nat :=
  match rest with
  | [] => 0
  | b :: bs => if isSecond a b then 1 + (bs.takeWhile isContinuation).length else 0

def decodeChar (a : UInt8) (rest : Bytes) : Except (Bytes × Utf8Flaw) (Char × Nat) :=
  match followers a with
  | none => .error ([a], .start)
  | some n =>
      let wanted := rest.take n
      let good := goodFollowers a wanted
      if good = n then .ok (charOf a wanted, n)
      else if good = wanted.length then .error (a :: wanted, .truncated)
      else .error (a :: wanted.take good, .continuation)

/-- Reads bytes from position `offset` on, after `skip` bytes that have been read. -/
def decodeFrom (offset skip : Nat) : Bytes → Except Utf8Error Text
  | [] => .ok []
  | a :: rest =>
      match skip with
      | skip + 1 => decodeFrom (offset + 1) skip rest
      | 0 =>
          match decodeChar a rest with
          | .error (bytes, flaw) => .error ⟨offset, bytes, flaw⟩
          | .ok (c, n) => do
              let t ← decodeFrom (offset + 1) n rest
              return c :: t

def decode (bs : Bytes) : Except Utf8Error Text := decodeFrom 0 0 bs

/-- Every way to end a line becomes one line feed. -/
def plainLines : Text → Text
  | '\r' :: '\n' :: t => '\n' :: plainLines t
  | '\r' :: t => '\n' :: plainLines t
  | c :: t => c :: plainLines t
  | [] => []

end ScriptSplit.Text
