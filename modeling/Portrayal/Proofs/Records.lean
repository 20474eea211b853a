import Mathlib.Data.List.Nodup
import Portrayal.Json.Fields

/-!
Records whose documents change. A reader of a record asks for its fields one after another, so a change
in the document of one field shows in the part of the reader that asks for it and in no other one:

    id          1      1
    geometry    g      g'      refused by the reader of geometries
    record      r      none

A change that the reader of a field refuses is refused by the reader of the record, and one that it ignores
is ignored. Main statement: this holds of every reader that asks for different fields. A member that the
record does not declare is refused or ignored by the record itself.
-/

namespace Portrayal.Json

variable {α β : Type}

/-- What is left of a result after a change: a strict record has none any more, and a lenient one still
has it. -/
def Strictness.verdict : Strictness → α → Option α
  | .strict, _ => none
  | .lenient, a => some a

/-- A result, if there was one, is followed by what is left of it. -/
def Follows (S : Strictness) (o o' : Option α) : Prop := ∀ a, o = some a → o' = S.verdict a

/-! ### Results of parts -/

section Follows

variable {S : Strictness} {o o' : Option β} {v v' : Json} {read : Json → Option α}

theorem Follows.bind (h : Follows S o o') (next : β → Option α) :
    Follows S (o >>= next) (o' >>= next) := by
  intro a ha
  obtain ⟨b, rfl, hb⟩ := Option.bind_eq_some_iff.mp ha
  rw [h b rfl]
  cases S with
  | strict => rfl
  | lenient => exact hb

theorem follows_next {next next' : β → Option α} (h : ∀ b, Follows S (next b) (next' b)) :
    Follows S (o >>= next) (o >>= next') := by
  intro a ha
  obtain ⟨b, rfl, hb⟩ := Option.bind_eq_some_iff.mp ha
  exact h b a hb

theorem Follows.map (h : Follows S o o') (f : β → α) : Follows S (o.map f) (o'.map f) := by
  rw [Option.map_eq_bind, Option.map_eq_bind]
  exact h.bind _

/-- A change in one item shows in the list of all of them. -/
theorem follows_each? (h : Follows S (read v) (read v')) (after : List Json) : ∀ before : List Json,
    Follows S (each? read (before ++ v :: after)) (each? read (before ++ v' :: after))
  | [] => h.bind _
  | _ :: before => follows_next fun _ => (follows_each? h after before).bind _

end Follows

/-! ### Declared fields -/

/-- The same fields are given but for one, whose document changes. -/
structure Fields.Changed (name : String) (v v' : Json) (fields fields' : Fields) : Prop where
  before : fields.get? name = some v
  after : fields'.get? name = some v'
  others : ∀ other, other ≠ name → fields'.get? other = fields.get? other

section Fields

variable {S : Strictness} {name : String} {names : List String} {v v' : Json} {fields : Fields}

theorem Fields.changed_given {before : List (String × Json)} (h : ∀ m ∈ before, m.1 ≠ name)
    (after : List (String × Json)) :
    Fields.Changed name v v' ⟨before ++ (name, v) :: after⟩ ⟨before ++ (name, v') :: after⟩ := by
  have hbefore : before.lookup name = none :=
    List.lookup_eq_none_iff.mpr fun m hm => bne_iff_ne.mpr (h m hm).symm
  have hget (w : Json) : (⟨before ++ (name, w) :: after⟩ : Fields).get? name = some w := by
    rw [Fields.get?, List.lookup_append, hbefore, List.lookup_cons_self]
    rfl
  refine ⟨hget v, hget v', fun other hother => ?_⟩
  have hne : (other == name) = false := beq_false_of_ne hother
  simp only [Fields.get?, List.lookup_append, List.lookup_cons, hne]

/-- An object gives the fields of a record exactly if it has each declared name once at most and, for a
strict record, no other name; the fields are its members with declared names. -/
theorem fields?_object_iff {members : List (String × Json)} :
    (object members).fields? S names = some fields ↔
      (∀ name ∈ names, (members.filter fun m => m.1 == name).length ≤ 1) ∧
        (S = .strict → ∀ m ∈ members, m.1 ∈ names) ∧
        ⟨members.filter fun m => names.contains m.1⟩ = fields := by
  have honce : (names.all fun name => ((members.filter fun m => names.contains m.1).filter
        fun m => m.1 == name).length ≤ 1) = true ↔
      ∀ name ∈ names, (members.filter fun m => m.1 == name).length ≤ 1 := by
    rw [List.all_eq_true]
    refine forall₂_congr fun name hname => ?_
    rw [decide_eq_true_iff, List.filter_filter, List.filter_congr]
    intro m _
    cases hm : m.1 == name with
    | false => rfl
    | true => rw [beq_iff_eq.mp hm, List.contains_iff_mem.mpr hname, Bool.and_self]
  have hstrict : (S == .lenient || (members.filter fun m => names.contains m.1).length ==
      members.length) = true ↔ (S = .strict → ∀ m ∈ members, m.1 ∈ names) := by
    rw [Bool.or_eq_true, beq_iff_eq, beq_iff_eq, List.length_filter_eq_length_iff]
    cases S <;> simp
  rw [fields?]
  simp only [Option.ite_none_right_eq_some, Bool.and_eq_true, honce, hstrict, Option.some.injEq,
    and_assoc]

section Members

variable {before after : List (String × Json)} {p : String → Bool}

theorem filter_of_unnamed (h : p name = false) :
    (before ++ (name, v) :: after).filter (fun m => p m.1) =
      (before ++ after).filter fun m => p m.1 := by
  rw [List.filter_append, List.filter_append, List.filter_cons, h, if_neg Bool.false_ne_true]

theorem filter_of_named (h : p name = true) :
    (before ++ (name, v) :: after).filter (fun m => p m.1) =
      before.filter (fun m => p m.1) ++ (name, v) :: after.filter fun m => p m.1 := by
  rw [List.filter_append, List.filter_cons, h, if_pos rfl]

theorem length_filter_names (v v' : Json) :
    ((before ++ (name, v) :: after).filter fun m => p m.1).length =
      ((before ++ (name, v') :: after).filter fun m => p m.1).length := by
  cases h : p name with
  | false => rw [filter_of_unnamed h, filter_of_unnamed h]
  | true => rw [filter_of_named h, filter_of_named h, List.length_append, List.length_append]; rfl

/-- A member that is not declared is refused or ignored. -/
theorem follows_fields?_undeclared (h : name ∉ names) :
    Follows S ((object (before ++ after)).fields? S names)
      ((object (before ++ (name, v) :: after)).fields? S names) := by
  intro fields hfields
  cases S with
  | strict =>
    rw [Strictness.verdict, Option.eq_none_iff_forall_ne_some]
    intro fields' hfields'
    exact h ((fields?_object_iff.mp hfields').2.1 rfl (name, v) (by simp))
  | lenient =>
    obtain ⟨honce, -, rfl⟩ := fields?_object_iff.mp hfields
    refine fields?_object_iff.mpr ⟨fun other hother => ?_, nofun, ?_⟩
    · have hne : (name == other) = false := beq_false_of_ne fun heq => h (heq ▸ hother)
      rw [filter_of_unnamed (p := (· == other)) hne]
      exact honce other hother
    · have hout : names.contains name = false :=
        Bool.eq_false_iff.mpr fun hin => h (List.contains_iff_mem.mp hin)
      rw [filter_of_unnamed hout]

/-- Another document of a declared member of an object is another document of that field. -/
theorem exists_changed_of_object (hname : name ∈ names)
    (h : (object (before ++ (name, v) :: after)).fields? S names = some fields) (v' : Json) :
    ∃ fields', (object (before ++ (name, v') :: after)).fields? S names = some fields' ∧
      fields.Changed name v v' fields' := by
  obtain ⟨honce, hstrict, rfl⟩ := fields?_object_iff.mp h
  refine ⟨_, fields?_object_iff.mpr ⟨fun other hother => ?_, fun hS m hm => ?_, rfl⟩, ?_⟩
  · rw [length_filter_names (p := (· == other)) v' v]
    exact honce other hother
  · rcases List.mem_append.mp hm with hm | hm
    · exact hstrict hS m (List.mem_append_left _ hm)
    · rcases List.mem_cons.mp hm with rfl | hm
      · exact hname
      · exact hstrict hS m (List.mem_append_right _ (List.mem_cons_of_mem _ hm))
  · have hin : names.contains name = true := List.contains_iff_mem.mpr hname
    rw [filter_of_named hin, filter_of_named hin]
    refine Fields.changed_given (fun m hm heq => ?_) _
    -- the name would occur twice
    have hbefore : m ∈ before.filter fun m => m.1 == name :=
      List.mem_filter.mpr ⟨List.mem_of_mem_filter hm, beq_iff_eq.mpr heq⟩
    have hlength := honce name hname
    rw [filter_of_named (p := (· == name)) (beq_self_eq_true name), List.length_append,
      List.length_cons] at hlength
    have hpos := List.length_pos_of_mem hbefore
    omega

end Members

/-- Another item in the place of a declared field of an array is another document of that field. -/
theorem exists_changed_of_array {before after : List Json} (hnodup : names.Nodup)
    (hname : names[before.length]? = some name)
    (h : (array (before ++ v :: after)).fields? S names = some fields) (v' : Json) :
    ∃ fields', (array (before ++ v' :: after)).fields? S names = some fields' ∧
      fields.Changed name v v' fields' := by
  obtain ⟨early, late, rfl, hearly⟩ : ∃ early late, names = early ++ name :: late ∧
      early.length = before.length := by
    obtain ⟨hlt, heq⟩ := List.getElem?_eq_some_iff.mp hname
    refine ⟨names.take before.length, names.drop (before.length + 1), ?_, ?_⟩
    · rw [← heq, List.getElem_cons_drop, List.take_append_drop]
    · exact List.length_take_of_le (Nat.le_of_lt hlt)
  have hzip (w : Json) : (early ++ name :: late).zip (before ++ w :: after) =
      early.zip before ++ (name, w) :: late.zip after := by
    rw [List.zip_append hearly, List.zip_cons_cons]
  have hlength : (before ++ v' :: after).length = (before ++ v :: after).length := by simp
  rw [fields?, hzip] at h
  rw [fields?, hzip, hlength]
  split at h
  · rename_i hle
    rw [if_pos hle]
    obtain rfl := Option.some.inj h
    refine ⟨_, rfl, Fields.changed_given (fun m hm heq => ?_) _⟩
    have hmem : m.1 ∈ early := (List.of_mem_zip (a := m.1) (b := m.2) hm).1
    exact (List.nodup_append.mp hnodup).2.2 m.1 hmem name List.mem_cons_self heq
  · exact nomatch h

end Fields

/-! ### Readers that ask for fields -/

/-- A kind of change in documents, each one to be refused or to be ignored. Nothing changes to or from
`null`, which some fields take for a document that is not given. -/
structure Change where
  Rel : Strictness → Json → Json → Prop
  ne_null : ∀ {S v v'}, Rel S v v' → v ≠ .null ∧ v' ≠ .null

/-- A reader refuses and ignores the changes that are to be. -/
def Heeds (c : Change) (read : Json → Option α) : Prop :=
  ∀ ⦃S v v'⦄, c.Rel S v v' → Follows S (read v) (read v')

/-- A part of a reader that asks for one field, and heeds the changes in it. -/
structure Asks (name : String) (c : Change) (get : Fields → Option α) : Prop where
  alone : ∀ {fields fields' : Fields}, fields'.get? name = fields.get? name →
    get fields' = get fields
  heeds : ∀ {S v v'} {fields fields' : Fields}, c.Rel S v v' →
    fields.Changed name v v' fields' → Follows S (get fields) (get fields')

/-- A reader that asks for fields one after another, in this order. -/
inductive Gathers : List (String × Change) → (Fields → Option α) → Prop where
  | done (a : α) : Gathers [] fun _ => some a
  | field {β : Type} {name : String} {c : Change} {rest : List (String × Change)}
      {get : Fields → Option β} {next : β → Fields → Option α} (h : Asks name c get)
      (hnext : ∀ b, Gathers rest (next b)) :
      Gathers ((name, c) :: rest) fun fields => get fields >>= fun b => next b fields

section Gathers

variable {S : Strictness} {name : String} {c : Change} {read : Json → Option α} {v v' : Json}
  {declared : List (String × Change)} {get : Fields → Option α} {fields fields' : Fields}

theorem asks_required (h : Heeds c read) : Asks name c fun fields => fields.required? name read where
  alone hget := by rw [Fields.required?, Fields.required?, hget]
  heeds hc hchanged := by
    rw [Fields.required?, Fields.required?, hchanged.before, hchanged.after]
    exact h hc

theorem asks_orElse (h : Heeds c read) (fallback : α) :
    Asks name c fun fields => fields.orElse? name fallback read where
  alone hget := by rw [Fields.orElse?, Fields.orElse?, hget]
  heeds hc hchanged := by
    rw [Fields.orElse?, Fields.orElse?, hchanged.before, hchanged.after]
    exact h hc

theorem asks_optional (h : Heeds c read) : Asks name c fun fields => fields.optional? name read where
  alone hget := by rw [Fields.optional?, Fields.optional?, hget]
  heeds {S v v' fields fields'} hc hchanged := by
    have hgiven {fields : Fields} {w : Json} (hget : fields.get? name = some w) (hnull : w ≠ .null) :
        fields.optional? name read = (read w).map some := by
      rw [Fields.optional?, hget]
      split
      · rename_i hnone
        exact nomatch hnone
      · rename_i hsome
        exact absurd (Option.some.inj hsome) hnull
      · rename_i hsome
        rw [Option.some.inj hsome]
    obtain ⟨hv, hv'⟩ := c.ne_null hc
    rw [hgiven hchanged.before hv, hgiven hchanged.after hv']
    exact (h hc).map some

/-- What a reader gathers does not depend on fields that it does not ask for. -/
theorem Gathers.congr (h : Gathers declared get)
    (hsame : ∀ name ∈ declared.map Prod.fst, fields'.get? name = fields.get? name) :
    get fields' = get fields := by
  induction h with
  | done a => rfl
  | field h hnext ih =>
    rw [List.map_cons, List.forall_mem_cons] at hsame
    simp only [h.alone hsame.1, fun b => ih b hsame.2]

/-- A change in one of the fields that a reader asks for is refused or ignored. -/
theorem Gathers.follows (h : Gathers declared get) (hnodup : (declared.map Prod.fst).Nodup)
    (hmem : (name, c) ∈ declared) (hc : c.Rel S v v') (hchanged : fields.Changed name v v' fields') :
    Follows S (get fields) (get fields') := by
  induction h with
  | done a => exact absurd hmem List.not_mem_nil
  | @field _ asked c' rest get next h hnext ih =>
    obtain ⟨hfresh, hnodup⟩ := List.nodup_cons.mp hnodup
    rcases List.mem_cons.mp hmem with heq | hmem
    · obtain ⟨rfl, rfl⟩ := Prod.mk.inj heq
      have hsame (b : _) : next b fields' = next b fields :=
        (hnext b).congr fun other hother => hchanged.others other fun h => hfresh (h ▸ hother)
      simp only [hsame]
      exact (h.heeds hc hchanged).bind _
    · have hname : name ∈ rest.map Prod.fst := List.mem_map_of_mem (f := Prod.fst) hmem
      have hother : asked ≠ name := fun h => hfresh (h ▸ hname)
      simp only [h.alone (hchanged.others asked hother)]
      exact follows_next fun b => ih b hnodup hmem

end Gathers

end Portrayal.Json
