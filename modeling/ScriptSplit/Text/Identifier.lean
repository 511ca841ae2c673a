import ScriptSplit.Text.IdentifierRanges

namespace ScriptSplit.Text

def isIdentifierStart (c : Char) : Bool := c == '_' || identifierStart.holds c.toNat

def isIdentifierPart (c : Char) : Bool := isIdentifierStart c || identifierContinue.holds c.toNat

def isIdentifier : Text → Bool
  | [] => false
  | c :: cs => isIdentifierStart c && cs.all isIdentifierPart

end ScriptSplit.Text
