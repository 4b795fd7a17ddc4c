import RoundTable.Proofs.Wire.Shapes
import RoundTable.Wire.Game

/-!
# Identifiers are read back

An identifier of a table is read back from its groups of hexadecimal digits, and never taken for one
in another form. A player is a key in the arrangement of the cards that lie in front of players:
there the bare numeral is read back. Since the entries are in order, each is put after those that
are there already, so the arrangement is read back entry by entry.

## Main results

* `Uuid.read?_write`: identifiers of tables are read back
* `FrontCards.put_of_forall_lt`: an entry for a later player comes last
-/

namespace RoundTable

/-! ### Tables -/

namespace Uuid

theorem unhyphenate?_hyphenate {lengths : List Nat} {text : List Char}
    (h : lengths.foldr (· + ·) 0 ≤ text.length) :
    unhyphenate? lengths (hyphenate lengths text) = some text := by
  induction lengths generalizing text with
  | nil => rfl
  | cons n lengths ih =>
    rw [List.foldr_cons] at h
    have hlength : (text.take n).length = n := by
      rw [List.length_take]
      omega
    have hsum : lengths.foldr (· + ·) 0 ≤ (text.drop n).length := by
      rw [List.length_drop]
      omega
    have hrest := ih hsum
    rw [hyphenate, unhyphenate?, List.drop_left' hlength, List.take_left' hlength]
    simp [hrest]

theorem length_hyphenate {lengths : List Nat} {text : List Char}
    (h : lengths.foldr (· + ·) 0 ≤ text.length) :
    (hyphenate lengths text).length = lengths.length + text.length := by
  induction lengths generalizing text with
  | nil => simp [hyphenate]
  | cons n lengths ih =>
    rw [List.foldr_cons] at h
    have hsum : lengths.foldr (· + ·) 0 ≤ (text.drop n).length := by
      rw [List.length_drop]
      omega
    simp only [hyphenate, List.length_append, List.length_cons, ih hsum, List.length_take,
      List.length_drop]
    omega

theorem digit?_hexDigit (d : Fin 16) : digit? (Json.hexDigit d) = some d := by
  revert d
  decide

theorem ofDigits?_hexDigits (id : Uuid) :
    ofDigits? (id.digits.map fun d => Json.hexDigit d.val) = some id := by
  have hread (ds : List (Fin 16)) :
      (ds.map fun d => Json.hexDigit d.val).mapM digit? = some ds := by
    induction ds with
    | nil => rfl
    | cons d ds ih => simp [List.mapM_cons, digit?_hexDigit, ih]
  rw [ofDigits?, hread]
  simp [id.length_digits]

/-- The form with hyphens is read as nothing else. -/
theorem read?_cons {c : Char} {rest : List Char} (hbrace : c ≠ '\x7b') (hscheme : c.toLower ≠ 'u')
    (hlength : (c :: rest).length ≠ 32) : read? (c :: rest) = hyphenated? (c :: rest) := by
  rw [read?]
  · have hother : ¬(List.take scheme.length (c :: rest)).map Char.toLower = scheme :=
      fun h => hscheme (List.cons.inj h).1
    rw [if_neg hother, if_neg hlength]
  · rintro _ h
    exact hbrace (List.cons.inj h).1

/-- An identifier is read back. -/
theorem read?_write (id : Uuid) : read? id.write = some id := by
  have hsum : groups.foldr (· + ·) 0 ≤ (id.digits.map fun d => Json.hexDigit d.val).length := by
    rw [List.length_map, id.length_digits]
    decide
  have hlength : id.write.length = 36 := by
    rw [write, length_hyphenate hsum, List.length_map, id.length_digits]
    rfl
  have hread : hyphenated? id.write = some id := by
    rw [hyphenated?, write, unhyphenate?_hyphenate hsum]
    exact ofDigits?_hexDigits id
  obtain ⟨d, rest, hwrite⟩ : ∃ d : Fin 16, ∃ rest, id.write = Json.hexDigit d :: rest := by
    obtain ⟨digits, length_digits⟩ := id
    cases digits with
    | nil => cases length_digits
    | cons d ds => exact ⟨d, _, rfl⟩
  have hdigit : ∀ d : Fin 16, Json.hexDigit d ≠ '\x7b' ∧ (Json.hexDigit d).toLower ≠ 'u' := by
    decide
  rw [hwrite] at hlength hread ⊢
  rw [read?_cons (hdigit d).1 (hdigit d).2 (by omega), hread]

end Uuid

/-! ### Players -/

/-- Digits need no escapes. -/
theorem Json.escape_of_isDigit {ds : List Char} (h : ∀ d ∈ ds, d.isDigit = true) :
    escape ds = ds := by
  induction ds with
  | nil => rfl
  | cons d ds ih =>
    obtain ⟨hd, hds⟩ := List.forall_mem_cons.mp h
    have hplain : escapeChar d = [d] := by
      have hne {c : Char} (hc : c.isDigit = false) : d ≠ c := ne_of_isDigit hd hc
      have hcontrol : ¬d.toNat < 0x20 := by
        simp only [Char.isDigit, Bool.and_eq_true, decide_eq_true_eq] at hd
        have hzero : '0'.val.toNat ≤ d.val.toNat := hd.1
        exact Nat.not_lt.mpr (Nat.le_trans (by decide) hzero)
      simp [escapeChar, hne, hcontrol]
    rw [escape, List.flatMap_cons, hplain, ← escape, ih hds]
    rfl

namespace FrontCards

/-- An entry for a player after all others comes last. -/
theorem put_of_forall_lt {id : PlayerId} {cards : List Card}
    {entries : List (PlayerId × List Card)} (h : ∀ e ∈ entries, e.1 < id) :
    put id cards entries = entries ++ [(id, cards)] := by
  induction entries with
  | nil => rfl
  | cons e rest ih =>
    obtain ⟨he, hrest⟩ := List.forall_mem_cons.mp h
    have hnot : ¬id < e.1 := fun hlt => UInt32.lt_irrefl _ (lt_trans he hlt)
    have hne : id ≠ e.1 := by
      rintro rfl
      exact UInt32.lt_irrefl _ he
    rw [put, if_neg hnot, if_neg hne, ih hrest, List.cons_append]

end FrontCards

namespace Wire

/-- The numeral of a player is read back. -/
theorem seat?_digits (id : PlayerId) : seat? (Text.digits id.number.toNat) = some id := by
  have hread : (Text.below? UInt32.size (Text.digits id.number.toNat)).map
      (fun n => PlayerId.mk (.ofNat n)) = some id := by
    rw [Text.below?_digits id.number.toNat_lt]
    simp
  rw [seat?]
  · exact hread
  · rintro c rest h
    obtain hzero | ⟨d, ds, hdigits, hd, -⟩ := Text.digits_eq_cons id.number.toNat
    · rw [hzero] at h
      cases h
    · rw [hdigits] at h
      exact hd (List.cons.inj h).1

end Wire

end RoundTable
