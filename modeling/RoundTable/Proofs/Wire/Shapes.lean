import RoundTable.Proofs.Wire.ReadBack

/-!
# Shapes are read back

How values of structured types are read back from their JSON: texts and numbers, constants of a
catalogue, alternatives, structures, lists and optional values. A value is read back from its text
if it is read back from its tree, provided that the tree is one of numerals and escaped texts.

A structure is read back field by field, since no two of its fields have the same name. An optional
value is read back unless there is something in it that looks like nothing.

## Main definitions

* `Wire.Faithful`: values that are read back
* `LawfulWire`: types all of whose values are read back
* `LawfulCatalogue`: catalogues that list every constant under a name of its own

## Main results

* `Wire.Faithful.ofText?_toText`: from trees to texts
* `Json.variant?_tagged`, `Json.fields?_record`: alternatives and structures are read back
-/

namespace RoundTable

/-- The elements under the key of one of them are that one, if no two have the same key. -/
theorem filter_key_eq {α κ : Type} [BEq κ] [LawfulBEq κ] {key : α → κ} {l : List α}
    (hnodup : (l.map key).Nodup) {a : α} (hmem : a ∈ l) :
    (l.filter fun other => key other == key a) = [a] := by
  induction l with
  | nil => cases hmem
  | cons first l ih =>
    obtain ⟨hfirst, hrest⟩ := List.nodup_cons.mp hnodup
    obtain rfl | hmem := List.mem_cons.mp hmem
    · rw [List.filter_cons_of_pos (by simp), List.filter_eq_nil_iff.mpr]
      intro other hother
      have : key other ≠ key a := fun heq => hfirst (heq ▸ List.mem_map_of_mem hother)
      simpa using this
    · have : key first ≠ key a := fun heq => hfirst (heq ▸ List.mem_map_of_mem hmem)
      rw [List.filter_cons_of_neg (by simpa using this), ih hrest hmem]

namespace Json

/-! ### Texts, numbers and alternatives -/

theorem isPlain_text (s : String) : (text s).IsPlain := .string _

@[simp] theorem text?_text (s : String) : (text s).text? = some s := by
  simp [text, text?]

theorem below?_nat {limit n : Nat} (h : n < limit) : (nat n).below? limit = some n :=
  Text.below?_digits h

@[simp] theorem variant?_text (s : String) : (text s).variant? = some (s, none) := by
  simp [text, variant?]

@[simp] theorem variant?_tagged (name : String) (content : Json) :
    (tagged name content).variant? = some (name, some content) := by
  simp [tagged, record, variant?]

/-! ### Structures -/

theorem isPlain_record {members : List (String × Json)} (h : ∀ m ∈ members, m.2.IsPlain) :
    (record members).IsPlain := by
  refine .object (fun m hm => ?_) (fun m hm => ?_)
  all_goals
    obtain ⟨member, hmem, rfl⟩ := List.mem_map.mp hm
  · exact ⟨_, rfl⟩
  · exact h member hmem

theorem isPlain_tagged {name : String} {content : Json} (h : content.IsPlain) :
    (tagged name content).IsPlain :=
  isPlain_record (by simpa using h)

@[simp] theorem members?_record (members : List (String × Json)) :
    (record members).members? = some members := by
  rw [record, members?]
  induction members with
  | nil => rfl
  | cons m members ih => simp [List.mapM_cons, ih]

/-- A member is found under its name, if there is no other one of that name. -/
theorem member?_of_mem {members : List (String × Json)} (hnodup : (members.map Prod.fst).Nodup)
    {m : String × Json} (hmem : m ∈ members) : member? members m.1 = some (some m.2) := by
  rw [member?, filter_key_eq hnodup hmem]

theorem mapM_member? {members : List (String × Json)} (hnodup : (members.map Prod.fst).Nodup) :
    (members.map Prod.fst).mapM (member? members) = some (members.map fun m => some m.2) := by
  have hread (sub : List (String × Json)) (hsub : ∀ m ∈ sub, m ∈ members) :
      (sub.map Prod.fst).mapM (member? members) = some (sub.map fun m => some m.2) := by
    induction sub with
    | nil => rfl
    | cons m sub ih =>
      obtain ⟨hm, hsub⟩ := List.forall_mem_cons.mp hsub
      simp [List.mapM_cons, member?_of_mem hnodup hm, ih hsub]
  exact hread members fun _ h => h

/-- A structure is read back field by field. -/
theorem fields?_record {members : List (String × Json)} {names : List String}
    (hnames : members.map Prod.fst = names) (hnodup : names.Nodup) :
    (record members).fields? names = some (members.map fun m => some m.2) := by
  subst hnames
  rw [fields?, members?_record]
  · exact mapM_member? hnodup
  · nofun

/-- So is one all of whose fields may be left out. -/
theorem fieldsOrFewer?_record {members : List (String × Json)} {names : List String}
    (hnames : members.map Prod.fst = names) (hnodup : names.Nodup) :
    (record members).fieldsOrFewer? names = some (members.map fun m => some m.2) := by
  subst hnames
  rw [fieldsOrFewer?, members?_record]
  · exact mapM_member? hnodup
  · nofun

theorem bind_variant?_tagged {β : Type} {name : String} {content : Json}
    {k : String × Option Json → Option β} :
    ((tagged name content).variant?).bind k = k (name, some content) := by
  rw [variant?_tagged]
  rfl

theorem bind_fields?_record {β : Type} {members : List (String × Json)} {names : List String}
    {k : List (Option Json) → Option β} (hnames : members.map Prod.fst = names)
    (hnodup : names.Nodup) :
    ((record members).fields? names).bind k = k (members.map fun m => some m.2) := by
  rw [fields?_record hnames hnodup]
  rfl

/-- An alternative with fields is read back field by field. -/
theorem bind_variant?_taggedRecord {β : Type} {name : String} {members : List (String × Json)}
    {names : List String} {k : String × Option Json → Option β}
    {k' : List (Option Json) → Option β}
    (hfields : k (name, some (record members)) = ((record members).fields? names).bind k')
    (hnames : members.map Prod.fst = names) (hnodup : names.Nodup) :
    ((tagged name (record members)).variant?).bind k = k' (members.map fun m => some m.2) := by
  rw [bind_variant?_tagged, hfields, bind_fields?_record hnames hnodup]

theorem bind_fieldsOrFewer?_record {β : Type} {members : List (String × Json)}
    {names : List String} {k : List (Option Json) → Option β}
    (hnames : members.map Prod.fst = names) (hnodup : names.Nodup) :
    ((record members).fieldsOrFewer? names).bind k = k (members.map fun m => some m.2) := by
  rw [fieldsOrFewer?_record hnames hnodup]
  rfl

end Json

/-! ### Values -/

namespace Wire

variable {α β : Type} [Wire α] [Wire β]

/-- A value is read back from its JSON. -/
structure Faithful (a : α) : Prop where
  isPlain : (encode a).IsPlain
  decode?_encode : decode? (encode a) = some a

/-- A value is read back from its text. -/
theorem Faithful.ofText?_toText {a : α} (h : Faithful a) : ofText? (toText a) = some a := by
  rw [ofText?, toText, h.isPlain.parse?_write]
  exact h.decode?_encode

/-- A list is read back if its elements are. -/
theorem Faithful.list {as : List α} (h : ∀ a ∈ as, Faithful a) : Faithful as where
  isPlain := by
    refine .array fun item hitem => ?_
    obtain ⟨a, ha, rfl⟩ := List.mem_map.mp hitem
    exact (h a ha).isPlain
  decode?_encode := by
    show (as.map encode).mapM decode? = some as
    induction as with
    | nil => rfl
    | cons a as ih =>
      obtain ⟨ha, has⟩ := List.forall_mem_cons.mp h
      simp [List.mapM_cons, ha.decode?_encode, ih has]

/-- An optional value is read back if what there is does not look like nothing. -/
theorem Faithful.some {a : α} (h : Faithful a) (hnull : encode a ≠ .null) :
    Faithful (some a) where
  isPlain := h.isPlain
  decode?_encode := by
    have hread := h.decode?_encode
    rw [show encode (Option.some a) = encode a from rfl]
    generalize encode a = value at hread hnull
    cases value with
    | null => exact absurd rfl hnull
    | _ => exact congrArg (Option.map Option.some) hread

/-- A count or a position is read back if it fits. -/
theorem faithful_nat {n : Nat} (h : n < UInt64.size) : Faithful n := ⟨.nat n, Json.below?_nat h⟩

end Wire

/-! ### Types -/

/-- Types all of whose values are read back. -/
class LawfulWire (α : Type) [Wire α] : Prop where
  /-- A value is read back from its JSON. -/
  faithful (a : α) : Wire.Faithful a

export LawfulWire (faithful)

namespace Wire

variable {α : Type} [Wire α]

theorem isPlain_encode [LawfulWire α] (a : α) : (encode a).IsPlain := (faithful a).isPlain

@[simp] theorem decode?_encode [LawfulWire α] (a : α) : decode? (encode a) = some a :=
  (faithful a).decode?_encode

instance : LawfulWire String := ⟨fun s => ⟨Json.isPlain_text s, Json.text?_text s⟩⟩

instance : LawfulWire UInt32 where
  faithful n := by
    refine ⟨.nat _, ?_⟩
    show ((Json.nat n.toNat).below? UInt32.size).map UInt32.ofNat = some n
    rw [Json.below?_nat n.toNat_lt]
    simp

instance [LawfulWire α] : LawfulWire (List α) := ⟨fun _ => .list fun a _ => faithful a⟩

/-- Optional values are read back if nothing looks like nothing else. -/
theorem lawfulWire_option [LawfulWire α] (hnull : ∀ a : α, encode a ≠ .null) :
    LawfulWire (Option α) where
  faithful
    | none => ⟨.null, rfl⟩
    | some a => (faithful a).some (hnull a)

end Wire

/-! ### Catalogues -/

/-- Catalogues that list every constant, each under a name of its own. -/
class LawfulCatalogue (α : Type) [Catalogue α] : Prop where
  /-- Every constant is listed. -/
  mem_all (a : α) : a ∈ (Catalogue.all : List α)
  /-- No two constants have the same name. -/
  nodup_names : ((Catalogue.all : List α).map Catalogue.name).Nodup

namespace Catalogue

variable {α : Type} [Catalogue α] [LawfulCatalogue α]

/-- A constant is found under its name. -/
@[simp] theorem find?_name (a : α) : find? (name a) = some a := by
  rw [find?, ← List.head?_filter, filter_key_eq LawfulCatalogue.nodup_names
    (LawfulCatalogue.mem_all a)]
  rfl

instance (priority := low) : LawfulWire α where
  faithful a := by
    refine ⟨Json.isPlain_text _, ?_⟩
    show ((Json.text (name a)).variant?.bind fun v =>
      if Json.isBare v.2 then find? v.1 else none) = some a
    simp [Json.isBare]

end Catalogue

end RoundTable
