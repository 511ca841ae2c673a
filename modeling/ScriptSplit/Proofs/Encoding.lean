import Mathlib.Order.Bounds.Defs
import ScriptSplit.Text.Utf8
import ScriptSplit.Tree.Reading

/-!
Offsets into the encoding of a text against offsets of its characters: what the search by halving
finds, and that a byte offset is converted to the least number of characters that reach it.
-/

namespace ScriptSplit.Text

section Bisection

variable (starts : Array Nat) {b : Int} {lo hi : Nat} (hhi : hi ≤ starts.size)

theorem bisect_bounds (b : Int) (h : lo ≤ hi) :
    lo ≤ bisect starts b lo hi hhi ∧ bisect starts b lo hi hhi ≤ hi := by
  fun_induction bisect starts b lo hi hhi with
  | case1 lo hi hhi hlt hmid ih =>
      have := ih (by omega)
      omega
  | case2 lo hi hhi hlt hmid ih =>
      have := ih (by omega)
      omega
  | case3 lo hi hhi hlt => omega

theorem bisect_mono {b' : Int} (hb : b ≤ b') (h : lo ≤ hi) :
    bisect starts b lo hi hhi ≤ bisect starts b' lo hi hhi := by
  fun_induction bisect starts b lo hi hhi with
  | case1 lo hi hhi hlt hmid ih =>
      rw [bisect.eq_def starts b', dif_pos hlt, if_pos (by omega)]
      exact ih (by omega)
  | case2 lo hi hhi hlt hmid ih =>
      rw [bisect.eq_def starts b', dif_pos hlt]
      split
      · have hleft := bisect_bounds starts (by omega) b (show lo ≤ (lo + hi) / 2 by omega)
        have hright := bisect_bounds starts hhi b' (show (lo + hi) / 2 + 1 ≤ hi by omega)
        omega
      · exact ih (by omega)
  | case3 lo hi hhi hlt => exact (bisect_bounds starts hhi b' h).1

theorem bisect_separates (hsorted : ∀ i j (hij : i ≤ j) (hj : j < starts.size), starts[i] ≤ starts[j])
    (h : lo ≤ hi) (hlow : ∀ i (hi : i < starts.size), i < lo → (starts[i] : Int) < b)
    (hhigh : ∀ i (hi' : i < starts.size), hi ≤ i → b ≤ (starts[i] : Int)) :
    (∀ i (hi' : i < starts.size), i < bisect starts b lo hi hhi → (starts[i] : Int) < b) ∧
      ∀ i (hi' : i < starts.size), bisect starts b lo hi hhi ≤ i → b ≤ (starts[i] : Int) := by
  fun_induction bisect starts b lo hi hhi with
  | case1 lo hi hhi hlt hmid ih =>
      refine ih hsorted (by omega) ?_ hhigh
      intro i hi' hlo
      have := hsorted i ((lo + hi) / 2) (by omega) (by omega)
      omega
  | case2 lo hi hhi hlt hmid ih =>
      refine ih hsorted (by omega) hlow ?_
      intro i hi' hge
      have := hsorted ((lo + hi) / 2) i hge hi'
      omega
  | case3 lo hi hhi hlt =>
      refine ⟨hlow, ?_⟩
      intro i hi' hge
      exact hhigh i hi' (by omega)

end Bisection

theorem length_encode (t : Text) : (encode t).length = byteSize t := by
  induction t with
  | nil => rfl
  | cons c t ih =>
      rw [encode, List.flatMap_cons, List.length_append, byteSize, ← ih]
      exact congrArg (· + _) (String.length_utf8EncodeChar c)

theorem encode_append (s t : Text) : encode (s ++ t) = encode s ++ encode t := by
  simp [encode]

theorem byteSize_take_lt {t : Text} {j k : Nat} (hjk : j < k) (hk : k ≤ t.length) :
    byteSize (t.take j) < byteSize (t.take k) := by
  have hsplit : t.take k = t.take j ++ (t.drop j).take (k - j) := by
    rw [← List.take_add, Nat.add_sub_cancel' (Nat.le_of_lt hjk)]
  have hlength : ((t.drop j).take (k - j)).length = k - j := by
    rw [List.length_take, List.length_drop]
    omega
  have hsize := length_le_byteSize ((t.drop j).take (k - j))
  rw [hsplit, byteSize_append]
  omega

theorem byteSize_take_le {t : Text} {j k : Nat} (hjk : j ≤ k) (hk : k ≤ t.length) :
    byteSize (t.take j) ≤ byteSize (t.take k) := by
  rcases Nat.lt_or_eq_of_le hjk with hlt | rfl
  · exact Nat.le_of_lt (byteSize_take_lt hlt hk)
  · exact Nat.le_refl _

theorem length_byteStarts (t : Text) (pos : Nat) : (byteStarts pos t).length = t.length + 1 := by
  induction t generalizing pos with
  | nil => rfl
  | cons c t ih => rw [byteStarts, List.length_cons, ih, List.length_cons]

theorem getElem_byteStarts (t : Text) (pos k : Nat) (h : k < (byteStarts pos t).length) :
    (byteStarts pos t)[k] = pos + byteSize (t.take k) := by
  induction t generalizing pos k with
  | nil =>
      obtain rfl : k = 0 := by simpa [byteStarts] using h
      rfl
  | cons c t ih =>
      cases k with
      | zero => rfl
      | succ k =>
          simp only [byteStarts, List.getElem_cons_succ, List.take_succ_cons, byteSize, ih]
          omega

theorem isLeast_bisect {t : Text} {b : Nat} (h : b ≤ byteSize t) :
    IsLeast {k | b ≤ byteSize (t.take k)}
      (bisect (byteStarts 0 t).toArray b 0 (byteStarts 0 t).toArray.size (Nat.le_refl _)) := by
  have hsize : (byteStarts 0 t).toArray.size = t.length + 1 := length_byteStarts t 0
  have hstart : ∀ i (hi : i < (byteStarts 0 t).toArray.size),
      (byteStarts 0 t).toArray[i] = byteSize (t.take i) := fun i hi => by
    rw [List.getElem_toArray, getElem_byteStarts, Nat.zero_add]
  obtain ⟨hbelow, habove⟩ := bisect_separates (byteStarts 0 t).toArray (Nat.le_refl _)
    (b := b) (fun i j hij hj => by
      rw [hstart, hstart]
      exact byteSize_take_le hij (by omega))
    (Nat.zero_le _) (fun i _ hi => absurd hi (Nat.not_lt_zero i))
    (fun i hi' hi => absurd hi' (Nat.not_lt.mpr hi))
  generalize bisect _ _ _ _ _ = k at hbelow habove ⊢
  have hreaches : ∀ i ≤ t.length, k ≤ i → b ≤ byteSize (t.take i) := by
    intro i hi hki
    have := habove i (by omega) hki
    rw [hstart] at this
    omega
  have hmisses : ∀ i < k, i ≤ t.length → byteSize (t.take i) < b := by
    intro i hik hi
    have := hbelow i (by omega) hik
    rw [hstart] at this
    omega
  have hk : k ≤ t.length := by
    apply Nat.le_of_not_lt
    intro hgt
    have := hmisses t.length hgt (Nat.le_refl _)
    rw [List.take_length] at this
    omega
  refine ⟨hreaches k hk (Nat.le_refl _), ?_⟩
  intro i hi
  apply Nat.le_of_not_lt
  intro hlt
  exact absurd hi (Nat.not_le.mpr (hmisses i hlt (by omega)))

theorem byteSize_take_of_byteSize_eq {t : Text} (h : byteSize t = t.length) {k : Nat} (hk : k ≤ t.length) :
    byteSize (t.take k) = k := by
  have hsplit := byteSize_append (t.take k) (t.drop k)
  rw [List.take_append_drop, h] at hsplit
  have hfront := length_le_byteSize (t.take k)
  have hback := length_le_byteSize (t.drop k)
  rw [List.length_take] at hfront
  rw [List.length_drop] at hback
  omega

theorem isLeast_of_byteSize_eq {t : Text} (h : byteSize t = t.length) {b : Nat} (hb : b ≤ byteSize t) :
    IsLeast {k | b ≤ byteSize (t.take k)} b := by
  refine ⟨Nat.le_of_eq (byteSize_take_of_byteSize_eq h (h ▸ hb)).symm, ?_⟩
  intro k hk
  apply Nat.le_of_not_lt
  intro hlt
  have hreach : b ≤ byteSize (t.take k) := hk
  rw [byteSize_take_of_byteSize_eq h (by omega)] at hreach
  omega

theorem exists_char (t : Text) {b : Nat} (h : b ≤ byteSize t) :
    ∃ k : Nat, t.offsets.char b = k ∧ IsLeast {k | b ≤ byteSize (t.take k)} k := by
  unfold offsets
  split
  · rename_i hsize
    exact ⟨b, rfl, isLeast_of_byteSize_eq hsize h⟩
  · exact ⟨_, rfl, isLeast_bisect h⟩

theorem char_byteSize_take (t : Text) {k : Nat} (hk : k ≤ t.length) :
    t.offsets.char (byteSize (t.take k)) = k := by
  have hsize : byteSize (t.take k) ≤ byteSize t := by
    simpa using byteSize_take_le hk (Nat.le_refl t.length)
  obtain ⟨j, hj, hreach, hleast⟩ := t.exists_char hsize
  have hjk : j ≤ k := hleast (Nat.le_refl _)
  rcases Nat.lt_or_eq_of_le hjk with hlt | rfl
  · exact absurd hreach (Nat.not_le.mpr (byteSize_take_lt hlt hk))
  · exact hj

theorem char_byteSize_append (s t : Text) : (s ++ t).offsets.char (byteSize s) = s.length := by
  simpa using char_byteSize_take (s ++ t) (show s.length ≤ (s ++ t).length by simp)

namespace Offsets

theorem char_mono (o : Offsets) {a b : Int} (h : a ≤ b) : o.char a ≤ o.char b := by
  obtain ⟨_ | starts⟩ := o
  · exact h
  · exact Int.ofNat_le.mpr (bisect_mono starts _ h (Nat.zero_le _))

theorem char_nonneg (o : Offsets) {b : Int} (h : 0 ≤ b) : 0 ≤ o.char b := by
  obtain ⟨_ | starts⟩ := o
  · exact h
  · exact Int.natCast_nonneg _

end Offsets

theorem char_offsets_le (t : Text) {b : Int} (h : b ≤ byteSize t) : t.offsets.char b ≤ t.length := by
  have hend := char_byteSize_take t (Nat.le_refl t.length)
  rw [List.take_length] at hend
  exact hend ▸ t.offsets.char_mono h

def Boundary (t : Text) (b : Nat) : Prop := ∃ k ≤ t.length, (encode (t.take k)).length = b

theorem extract_encode (before piece after : Text) :
    (encode (before ++ (piece ++ after))).extract (byteSize before) (byteSize (before ++ piece)) =
      encode piece := by
  rw [List.extract_eq_take_drop, encode_append, encode_append, byteSize_append, Nat.add_sub_cancel_left,
    ← length_encode before, List.drop_left, ← length_encode piece, List.take_left]

theorem encode_between (t : Text) {i j : Nat} (hij : i ≤ j) :
    encode (t.between i j) = (encode t).extract (byteSize (t.take i)) (byteSize (t.take j)) := by
  have htake : t.take j = t.take i ++ t.between i j := by
    rw [between, ← List.take_add, Nat.add_sub_cancel' hij]
  have hsplit : t = t.take i ++ (t.between i j ++ t.drop j) := by
    rw [← List.append_assoc, ← htake, List.take_append_drop]
  rw [htake, ← extract_encode (t.take i) (t.between i j) (t.drop j), ← hsplit]

theorem encode_slice_char (t : Text) {s e : Nat} (hse : s ≤ e) (hs : t.Boundary s) (he : t.Boundary e) :
    encode (t.slice (t.offsets.char s) (t.offsets.char e)) = (encode t).extract s e := by
  obtain ⟨i, hi, rfl⟩ := hs
  obtain ⟨j, hj, rfl⟩ := he
  rw [length_encode, length_encode] at hse ⊢
  have hij : i ≤ j := by
    apply Nat.le_of_not_lt
    intro hlt
    exact absurd hse (Nat.not_le.mpr (byteSize_take_lt hlt hi))
  rw [char_byteSize_take t hi, char_byteSize_take t hj, slice_of_le hi hj, encode_between t hij]

end ScriptSplit.Text

namespace ScriptSplit

open Text

theorem Source.column_span (before line rest : Text) {l : Label}
    (hstart : l.startByte = (encode (before ++ line)).length)
    (hcolumn : l.byteColumn = (encode line).length) :
    ((Source.ofText (before ++ line ++ rest)).span l).column = line.length := by
  rw [length_encode] at hstart hcolumn
  have hline : (l.startByte : Int) - l.byteColumn = byteSize before := by
    rw [hstart, hcolumn, byteSize_append]
    omega
  have hnode := char_byteSize_append (before ++ line) rest
  have hbefore := char_byteSize_append before (line ++ rest)
  rw [← List.append_assoc] at hbefore
  simp only [Source.span, Source.ofText]
  rw [hline, hbefore, hstart, hnode, List.length_append]
  omega

/-- Byte offsets convert exactly: each to the least number of characters that reach it (also by the
starts of characters that are all one byte), later ones to no fewer, the size of a first part to its
length, two boundaries to a piece with the bytes between them, and the byte column of a node to the
number of characters before it on its line. -/
theorem Text.offsets_exact (t : Text) :
    (∀ o ∈ [t.offsets, ⟨some (byteStarts 0 t).toArray⟩], ∀ b ≤ (encode t).length,
      ∃ k : Nat, o.char b = k ∧ IsLeast {k | b ≤ (encode (t.take k)).length} k) ∧
    (∀ a b : Int, a ≤ b → t.offsets.char a ≤ t.offsets.char b) ∧
    (∀ k ≤ t.length, t.offsets.char (encode (t.take k)).length = k) ∧
    (∀ s e, s ≤ e → t.Boundary s → t.Boundary e →
      encode (t.slice (t.offsets.char s) (t.offsets.char e)) = (encode t).extract s e) ∧
    ∀ before line rest l, t = before ++ line ++ rest →
      l.startByte = (encode (before ++ line)).length → l.byteColumn = (encode line).length →
        ((Source.ofText t).span l).column = line.length := by
  refine ⟨?_, fun a b => t.offsets.char_mono, ?_, fun s e => t.encode_slice_char, ?_⟩
  · simp only [length_encode, List.forall_mem_cons]
    exact ⟨fun b => t.exists_char, fun b hb => ⟨_, rfl, isLeast_bisect hb⟩, nofun⟩
  · simp only [length_encode]
    exact fun k => t.char_byteSize_take
  · rintro before line rest l rfl
    exact Source.column_span before line rest

def Sample.wideText : Text := ['a', 'é', '\n', '€', '😀']

def Sample.wideLabel : Label := ⟨"identifier", true, false, false, "", 7, 11, 1, 3⟩

theorem wideText_offsets_exact :
    (∃ k : Nat, Sample.wideText.offsets.char (5 : Nat) = k ∧
      IsLeast {k | 5 ≤ (encode (Sample.wideText.take k)).length} k) ∧
    Sample.wideText.offsets.char (5 : Nat) ≤ Sample.wideText.offsets.char (6 : Nat) ∧
    Sample.wideText.offsets.char (encode (Sample.wideText.take 4)).length = (4 : Nat) ∧
    encode (Sample.wideText.slice (Sample.wideText.offsets.char (4 : Nat))
      (Sample.wideText.offsets.char (7 : Nat))) = (encode Sample.wideText).extract 4 7 ∧
    ((Source.ofText Sample.wideText).span Sample.wideLabel).column = 1 := by
  obtain ⟨hleast, hmono, hsize, hslice, hcolumn⟩ := Text.offsets_exact Sample.wideText
  exact ⟨hleast _ List.mem_cons_self 5 (by decide), hmono 5 6 (by decide), hsize 4 (by decide),
    hslice 4 7 (by decide) ⟨3, by decide⟩ ⟨4, by decide⟩,
    hcolumn ['a', 'é', '\n'] ['€'] ['😀'] Sample.wideLabel rfl (by decide) (by decide)⟩

end ScriptSplit
