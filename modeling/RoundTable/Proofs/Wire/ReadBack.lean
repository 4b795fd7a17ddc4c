import Mathlib.Tactic.SplitIfs
import RoundTable.Json.Shape

/-!
# What is written is read back

The compact text of a tree is read back as that tree, if its numbers are decimal numerals and its
strings and keys are escaped texts. A value ends where it is followed by nothing, or by one of the
signs that may follow a value within another one; so it does not matter what comes after it.

## Main definitions

* `Json.Escaped`: how a character may be escaped
* `Json.IsPlain`: trees of numerals and escaped texts
* `Json.Stops`: texts with which no value goes on

## Main results

* `Json.unescape?_escape`, `Json.scan?_escape`: escaped texts are read back
* `Json.readNumber?_digits`: numerals are read back
* `Json.IsPlain.readValue?`, `Json.IsPlain.parse?_write`: trees are read back
-/

namespace RoundTable

/-! ### Numerals -/

/-- Different numbers have different numerals. -/
theorem Text.digits_injective {m n : Nat} (h : digits m = digits n) : m = n := by
  have hread := ofDigits?_digits m
  rw [h, ofDigits?_digits] at hread
  exact (Option.some.inj hread).symm

theorem Text.isDigit_of_mem_digits (n : Nat) : ∀ c ∈ digits n, c.isDigit = true :=
  fun _ hc => Nat.isDigit_of_mem_toDigits (by decide) (by decide) hc

/-- A numeral is a zero alone, or it does not start with one. -/
theorem Text.digits_eq_cons (n : Nat) :
    digits n = ['0'] ∨
      ∃ c rest, digits n = c :: rest ∧ c ≠ '0' ∧ ∀ d ∈ c :: rest, d.isDigit = true := by
  induction n using Nat.strongRecOn with
  | _ n ih =>
    by_cases hsmall : n < 10
    · have hfew : ∀ m < 10, [Nat.digitChar m] = ['0'] ∨
          Nat.digitChar m ≠ '0' ∧ (Nat.digitChar m).isDigit = true := by decide
      rw [digits, Nat.toDigits_of_lt_base hsmall]
      obtain hzero | ⟨hne, hdigit⟩ := hfew n hsmall
      · exact .inl hzero
      · exact .inr ⟨_, [], rfl, hne, by simpa using hdigit⟩
    have hsplit : digits n = digits (n / 10) ++ [Nat.digitChar (n % 10)] :=
      Nat.toDigits_of_base_le (by decide) (by omega)
    have hdigit := isDigit_of_mem_digits n
    obtain hzero | ⟨c, rest, hdigits, hc, -⟩ := ih (n / 10) (by omega)
    · have : n / 10 = 0 := digits_injective hzero
      omega
    · rw [hdigits, List.cons_append] at hsplit
      exact .inr ⟨c, _, hsplit, hc, hsplit ▸ hdigit⟩

namespace Json

/-! ### Escapes -/

/-- The ways in which characters are escaped. -/
inductive Escaped : Char → List Char → Prop where
  | short {c e : Char} (h : shortEscape? e = some c) (hne : e ≠ 'u') : Escaped c ['\\', e]
  | control {c : Char} (h : c.toNat < 0x20) :
    Escaped c ['\\', 'u', '0', '0', hexDigit (c.toNat / 16), hexDigit (c.toNat % 16)]
  | plain {c : Char} (hquote : c ≠ '"') (hbackslash : c ≠ '\\') (hcontrol : ¬c.toNat < 0x20) :
    Escaped c [c]

theorem escaped_escapeChar (c : Char) : Escaped c (escapeChar c) := by
  rw [escapeChar]
  split_ifs with hquote hbackslash hb hf hn hr ht hcontrol
  iterate 7 subst c; exact .short rfl (by decide)
  · exact .control hcontrol
  · exact .plain hquote hbackslash hcontrol

/-- The code of a control character is read back from its two hexadecimal digits. -/
theorem hex4?_control {n : Nat} (h : n < 0x20) :
    hex4? '0' '0' (hexDigit (n / 16)) (hexDigit (n % 16)) = some n := by
  revert n
  decide

theorem Escaped.unescape?_append {c : Char} {body : List Char} (h : Escaped c body)
    (rest : List Char) : unescape? (body ++ rest) = (unescape? rest).map (c :: ·) := by
  cases h with
  | short h hne =>
    rw [List.cons_append, List.cons_append, List.nil_append, unescape?]
    · rw [h]
    · rintro _ _ _ _ _ rfl
      exact absurd rfl hne
  | control h =>
    simp only [List.cons_append, List.nil_append]
    rw [unescape?, hex4?_control h]
    dsimp only
    rw [if_pos (by omega), Char.ofNat_toNat]
  | plain hquote hbackslash hcontrol =>
    rw [List.cons_append, List.nil_append, unescape?]
    · rw [if_neg hbackslash]
    · rintro _ _ _ _ _ rfl
      exact absurd rfl hbackslash
    · rintro _ _ rfl
      exact absurd rfl hbackslash

/-- An escaped text is read back. -/
@[simp] theorem unescape?_escape (text : List Char) : unescape? (escape text) = some text := by
  induction text with
  | nil => rfl
  | cons c text ih =>
    rw [escape, List.flatMap_cons, (escaped_escapeChar c).unescape?_append, ← escape, ih]
    rfl

theorem Escaped.scan?_append {c : Char} {body : List Char} (h : Escaped c body)
    (rest : List Char) :
    scan? (body ++ rest) = (scan? rest).map fun r => (body ++ r.1, r.2) := by
  cases h with
  | short h hne =>
    rw [List.cons_append, List.cons_append, List.nil_append, scan?]
    · rw [h]
      rfl
    · rintro _ _ _ _ _ rfl
      exact absurd rfl hne
  | control h =>
    simp only [List.cons_append, List.nil_append]
    rw [scan?, hex4?_control h]
  | plain hquote hbackslash hcontrol =>
    rw [List.cons_append, List.nil_append, scan?]
    · rw [if_neg (by simp [hbackslash, hcontrol])]
      rfl
    · exact hquote
    · rintro _ _ _ _ _ rfl
      exact absurd rfl hbackslash
    · rintro _ _ rfl
      exact absurd rfl hbackslash

/-- The body of an escaped text ends at the closing quote. -/
theorem scan?_escape (text rest : List Char) :
    scan? (escape text ++ '"' :: rest) = some (escape text, rest) := by
  induction text with
  | nil => rfl
  | cons c text ih =>
    rw [escape, List.flatMap_cons, List.append_assoc, (escaped_escapeChar c).scan?_append,
      ← escape, ih]
    rfl

/-! ### Numbers -/

/-- Texts with which no value goes on: nothing, or a sign that separates or closes. -/
inductive Stops : List Char → Prop where
  | nil : Stops []
  | comma (rest : List Char) : Stops (',' :: rest)
  | bracket (rest : List Char) : Stops (']' :: rest)
  | brace (rest : List Char) : Stops ('\x7d' :: rest)

theorem Stops.span_append {rest : List Char} (hstops : Stops rest) {ds : List Char}
    (hds : ∀ d ∈ ds, d.isDigit = true) :
    (ds ++ rest).takeWhile Char.isDigit = ds ∧ (ds ++ rest).dropWhile Char.isDigit = rest := by
  rw [List.takeWhile_append_of_pos hds, List.dropWhile_append_of_pos hds]
  cases hstops <;> exact ⟨List.append_nil ds, rfl⟩

/-- A number ends where nothing goes on. -/
theorem readNumber?_digits (n : Nat) {rest : List Char} (hstops : Stops rest) :
    readNumber? (Text.digits n ++ rest) = some (Text.digits n, rest) := by
  have hfraction : readFraction? rest = some ([], rest) := by cases hstops <;> rfl
  have hexponent : readExponent? rest = some ([], rest) := by cases hstops <;> rfl
  obtain hzero | ⟨c, ds, hdigits, hc, hds⟩ := Text.digits_eq_cons n
  · have hwhole : readWhole? ('0' :: rest) = some (['0'], rest) := rfl
    rw [hzero]
    show readUnsigned? ('0' :: rest) = _
    simp [readUnsigned?, hwhole, hfraction, hexponent]
  · obtain ⟨hdigit, hds⟩ := List.forall_mem_cons.mp hds
    obtain ⟨htake, hdrop⟩ := hstops.span_append hds
    have hwhole : readWhole? (c :: (ds ++ rest)) = some (c :: ds, rest) := by
      rw [readWhole?, if_neg hc, if_pos hdigit, htake, hdrop]
    rw [hdigits, List.cons_append, readNumber?]
    · simp [readUnsigned?, hwhole, hfraction, hexponent]
    · rintro _ h
      obtain ⟨rfl, -⟩ := List.cons.inj h
      revert hdigit
      decide

/-! ### Trees -/

/-- Trees whose numbers are numerals, and whose strings and keys are escaped texts. -/
inductive IsPlain : Json → Prop where
  | null : IsPlain .null
  | bool (value : Bool) : IsPlain (.bool value)
  | nat (n : Nat) : IsPlain (.nat n)
  | string (text : List Char) : IsPlain (.string (escape text))
  | array {items : List Json} (h : ∀ item ∈ items, IsPlain item) : IsPlain (.array items)
  | object {members : List (List Char × Json)}
    (hkeys : ∀ member ∈ members, ∃ key, member.1 = escape key)
    (hvalues : ∀ member ∈ members, IsPlain member.2) : IsPlain (.object members)

theorem stops_writeItems (items : List Json) (rest : List Char) :
    Stops (writeItems items ++ rest) := by
  cases items with
  | nil => exact .bracket _
  | cons item items => exact .comma _

theorem stops_writeMembers (members : List (List Char × Json)) (rest : List Char) :
    Stops (writeMembers members ++ rest) := by
  cases members with
  | nil => exact .brace _
  | cons member members => exact .comma _

theorem Stops.skipGap_eq {rest : List Char} (h : Stops rest) : skipGap rest = rest := by
  cases h <;> rfl

/-- A digit is neither a blank nor any of the signs that other values start with. -/
theorem ne_of_isDigit {c d : Char} (h : c.isDigit = true) (hd : d.isDigit = false) : c ≠ d := by
  rintro rfl
  rw [h] at hd
  cases hd

/-- A value starts with a sign that is neither a blank nor a closing bracket. -/
theorem IsPlain.write_eq_cons {value : Json} (h : IsPlain value) :
    ∃ c text, value.write = c :: text ∧ isGap c = false ∧ c ≠ ']' := by
  cases h with
  | null => exact ⟨_, _, rfl, rfl, by decide⟩
  | bool value => cases value <;> exact ⟨_, _, rfl, rfl, by decide⟩
  | nat n =>
    obtain hzero | ⟨c, ds, hdigits, -, hds⟩ := Text.digits_eq_cons n
    · exact ⟨_, _, hzero, rfl, by decide⟩
    · have hdigit := hds c List.mem_cons_self
      refine ⟨c, ds, hdigits, ?_, ne_of_isDigit hdigit rfl⟩
      simp [isGap, ne_of_isDigit hdigit]
  | string text => exact ⟨_, _, rfl, rfl, by decide⟩
  | @array items _ => cases items <;> exact ⟨_, _, rfl, rfl, by decide⟩
  | @object members _ _ => cases members <;> exact ⟨_, _, rfl, rfl, by decide⟩

theorem skipGap_of_isGap_eq_false {c : Char} (h : isGap c = false) (text : List Char) :
    skipGap (c :: text) = c :: text :=
  List.dropWhile_cons_of_neg (by simp [h])

theorem readValue?_nat {depth : Nat} (n : Nat) {rest : List Char} (hstops : Stops rest) :
    readValue? (depth + 1) ((nat n).write ++ rest) = some (nat n, rest) := by
  have hread := readNumber?_digits n hstops
  obtain hzero | ⟨c, ds, hdigits, -, hds⟩ := Text.digits_eq_cons n
  · rw [hzero] at hread
    rw [nat, write, hzero]
    exact congrArg (Option.map _) hread
  · have hdigit := hds c List.mem_cons_self
    rw [hdigits, List.cons_append] at hread
    rw [nat, write, hdigits, List.cons_append, readValue?,
      skipGap_of_isGap_eq_false (by simp [isGap, ne_of_isDigit hdigit])]
    split
    case h_7 => exact congrArg (Option.map _) hread
    all_goals
      rename_i heq
      exact absurd (List.cons.inj heq).1 (ne_of_isDigit hdigit rfl)

theorem readValue?_bracket {depth : Nat} {c : Char} (hgap : isGap c = false) (hne : c ≠ ']')
    (text : List Char) :
    readValue? (depth + 1) ('[' :: c :: text) =
      (readItems? depth (c :: text)).map fun r => (.array r.1, r.2) := by
  rw [readValue?, skipGap_of_isGap_eq_false rfl]
  simp only [skipGap_of_isGap_eq_false hgap]
  split
  · rename_i heq
    exact absurd (List.cons.inj heq).1 hne
  · rfl

theorem readValue?_brace {depth : Nat} (text : List Char) :
    readValue? (depth + 1) ('\x7b' :: '"' :: text) =
      (readMembers? depth ('"' :: text)).map fun r => (.object r.1, r.2) := rfl

/-- A member is a key, a colon and a value, and it is followed by another one or by the end. -/
theorem readMembers?_member {depth : Nat} {key text valueText rest : List Char} {value : Json}
    (hkey : scan? text = some (key, ':' :: valueText)) :
    readValue? depth valueText = some (value, rest) → skipGap rest = rest →
    readMembers? (depth + 1) ('"' :: text) =
      match rest with
      | ',' :: rest => (readMembers? depth rest).map fun r => ((key, value) :: r.1, r.2)
      | '\x7d' :: rest => some ([(key, value)], rest)
      | _ => none := by
  intro hvalue hgap
  rw [readMembers?, skipGap_of_isGap_eq_false rfl]
  split
  · rename_i heq
    obtain ⟨-, rfl⟩ := List.cons.inj heq
    simp only [hkey]
    rw [skipGap_of_isGap_eq_false rfl]
    split
    · rename_i heq
      obtain ⟨-, rfl⟩ := List.cons.inj heq
      rewrite [hvalue]
      dsimp only
      rewrite [hgap]
      rfl
    · rename_i h
      exact absurd rfl (h _)
  · rename_i h
    exact absurd rfl (h _)

/-- Texts of trees, of further items and of further members are read back at a given depth. -/
structure ReadsBack (depth : Nat) : Prop where
  value {value : Json} (h : IsPlain value) (hdepth : value.write.length ≤ depth)
    {rest : List Char} (hstops : Stops rest) :
    readValue? depth (value.write ++ rest) = some (value, rest)
  items {item : Json} {items : List Json} (h : ∀ i ∈ item :: items, IsPlain i)
    (hdepth : (item.write ++ writeItems items).length ≤ depth) (rest : List Char) :
    readItems? depth (item.write ++ (writeItems items ++ rest)) = some (item :: items, rest)
  members {key : List Char} {value : Json} {members : List (List Char × Json)}
    (h : ∀ m ∈ (escape key, value) :: members, (∃ key, m.1 = escape key) ∧ IsPlain m.2)
    (hdepth : (escape key ++ value.write ++ writeMembers members).length + 3 ≤ depth)
    (rest : List Char) :
    readMembers? depth
        ('"' :: (escape key ++ '"' :: ':' :: (value.write ++ (writeMembers members ++ rest)))) =
      some ((escape key, value) :: members, rest)

theorem ReadsBack.value_succ {depth : Nat} (ih : ReadsBack depth) {value : Json}
    (h : IsPlain value) (hdepth : value.write.length ≤ depth + 1) {rest : List Char}
    (hstops : Stops rest) : readValue? (depth + 1) (value.write ++ rest) = some (value, rest) := by
  cases h with
  | null => rfl
  | bool value => cases value <;> rfl
  | nat n => exact readValue?_nat n hstops
  | string text =>
    have hscan := scan?_escape text rest
    simp only [write, List.cons_append, List.append_assoc, List.nil_append]
    exact congrArg (Option.map _) hscan
  | @array items h =>
    cases items with
    | nil => rfl
    | cons item items =>
      obtain ⟨c, text, hwrite, hgap, hne⟩ := (h item List.mem_cons_self).write_eq_cons
      have hitems := ih.items h (by simp [write] at hdepth ⊢; omega) rest
      simp only [write, List.cons_append, List.append_assoc]
      rw [hwrite, List.cons_append] at hitems ⊢
      rw [readValue?_bracket hgap hne, hitems]
      rfl
  | @object members hkeys hvalues =>
    cases members with
    | nil => rfl
    | cons member members =>
      obtain ⟨raw, value⟩ := member
      obtain ⟨key, rfl⟩ := hkeys _ List.mem_cons_self
      have hmembers := ih.members (fun m hm => ⟨hkeys m hm, hvalues m hm⟩)
        (by simp [write] at hdepth ⊢; omega) rest
      simp only [write, List.cons_append, List.append_assoc]
      rw [readValue?_brace, hmembers]
      rfl

theorem ReadsBack.items_succ {depth : Nat} (ih : ReadsBack depth) {item : Json}
    {items : List Json} (h : ∀ i ∈ item :: items, IsPlain i)
    (hdepth : (item.write ++ writeItems items).length ≤ depth + 1) (rest : List Char) :
    readItems? (depth + 1) (item.write ++ (writeItems items ++ rest)) =
      some (item :: items, rest) := by
  obtain ⟨hitem, hitems⟩ := List.forall_mem_cons.mp h
  have hend : 0 < (writeItems items).length := by cases items <;> simp [writeItems]
  have hlength : (item.write ++ writeItems items).length =
      item.write.length + (writeItems items).length := List.length_append
  rw [readItems?, ih.value hitem (by omega) (stops_writeItems items rest)]
  cases items with
  | nil => rfl
  | cons next items =>
    have hread := ih.items hitems (by simp [writeItems] at hdepth ⊢; omega) rest
    simp only [writeItems, List.cons_append, List.append_assoc]
    exact congrArg (Option.map _) hread

theorem ReadsBack.members_succ {depth : Nat} (ih : ReadsBack depth) {key : List Char} {value : Json}
    {members : List (List Char × Json)}
    (h : ∀ m ∈ (escape key, value) :: members, (∃ key, m.1 = escape key) ∧ IsPlain m.2)
    (hdepth : (escape key ++ value.write ++ writeMembers members).length + 3 ≤ depth + 1)
    (rest : List Char) :
    readMembers? (depth + 1)
        ('"' :: (escape key ++ '"' :: ':' :: (value.write ++ (writeMembers members ++ rest)))) =
      some ((escape key, value) :: members, rest) := by
  obtain ⟨⟨-, hvalue⟩, hmembers⟩ := List.forall_mem_cons.mp h
  have hscan := scan?_escape key (':' :: (value.write ++ (writeMembers members ++ rest)))
  have hread := ih.value hvalue (by simp at hdepth ⊢; omega) (stops_writeMembers members rest)
  rw [readMembers?_member hscan hread (stops_writeMembers members rest).skipGap_eq]
  cases members with
  | nil => rfl
  | cons member members =>
    obtain ⟨raw, next⟩ := member
    obtain ⟨nextKey, rfl⟩ := (hmembers _ List.mem_cons_self).1
    have hmore := ih.members hmembers (by simp [writeMembers] at hdepth ⊢; omega) rest
    simp only [writeMembers, List.cons_append, List.append_assoc]
    exact congrArg (Option.map _) hmore

theorem readsBack (depth : Nat) : ReadsBack depth := by
  induction depth with
  | zero =>
    refine ⟨fun h hdepth => ?_, fun {item items} _ hdepth => ?_, fun _ hdepth => ?_⟩
    · obtain ⟨c, text, hwrite, -⟩ := h.write_eq_cons
      simp [hwrite] at hdepth
    · cases items <;> simp [writeItems] at hdepth
    · omega
  | succ depth ih => exact ⟨ih.value_succ, ih.items_succ, ih.members_succ⟩

/-- The text of a tree is read back as that tree, whatever it stands in front of. -/
theorem IsPlain.readValue?_write {value : Json} (h : IsPlain value) {depth : Nat}
    (hdepth : value.write.length ≤ depth) {rest : List Char} (hstops : Stops rest) :
    readValue? depth (value.write ++ rest) = some (value, rest) :=
  (readsBack depth).value h hdepth hstops

/-- The text of a tree is the text of that tree alone. -/
theorem IsPlain.parse?_write {value : Json} (h : IsPlain value) :
    parse? value.write = some value := by
  have hread : readValue? (2 * value.write.length + 1) (value.write ++ []) = some (value, []) :=
    h.readValue?_write (by omega) .nil
  rw [List.append_nil] at hread
  rw [parse?, hread]
  rfl

end Json

end RoundTable
