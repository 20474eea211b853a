import Mathlib.Data.List.Forall2
import Mathlib.Data.List.Perm.Basic
import Portrayal.Json.Reader
import Portrayal.Proofs.Tokens

/-!
Values inside a document. The reader is a stack of open frames, and the tokens of a value leave the
frames below it alone, so a text that is a document on its own is a value wherever one may stand.
Only what is inside the value can differ: below too many frames it cannot be held.

    tokens of v, on their own         frames []              ──►  frames []               v
    tokens of v, as a member          frames [object, …]     ──►  frames [object, …]      v'

Main statements: a document read on its own is read as the same scalar, or as some array or object,
wherever it stands; and the text of an object is read as its members in order.
-/

namespace Portrayal.Json

/-! ### Running over parts -/

theorem Reader.run?_append : ∀ (ts us : List Token) (r : Reader),
    r.run? (ts ++ us) = (r.run? ts).bind fun s => s.run? us
  | [], us, r => rfl
  | t :: ts, us, r => by
    rw [List.cons_append, run?, run?]
    cases r.step? t with
    | none => rfl
    | some s => exact run?_append ts us s

/-- A run over some tokens and one more. -/
theorem Reader.run?_append_of {r s : Reader} {ts : List Token} (h : r.run? ts = some s)
    (us : List Token) : r.run? (ts ++ us) = s.run? us := by
  rw [run?_append, h, Option.bind_some]

theorem read?_eq_some_iff {text : String} {v : Json} :
    read? text = some v ↔
      ∃ ts, Token.Scans text.toList ts ∧ Reader.initial.run? ts = some ⟨[], .done v⟩ := by
  unfold read? Token.ofString? Token.Scans
  cases Token.scan? .between [] text.toList with
  | none => simp
  | some ts =>
    simp only [Option.bind_eq_bind, Option.bind_some, Option.some.injEq, exists_eq_left']
    cases Reader.initial.run? ts with
    | none => simp
    | some r =>
      rw [Option.bind_some]
      split
      · simp
      · rename_i hother
        constructor
        · exact fun h => nomatch h
        · exact fun h => (hother v (Option.some.inj h)).elim

/-! ### The frames below a value -/

/-- A document without what an array or object holds. -/
def bare : Json → Json
  | array _ => unheld
  | object _ => unheld
  | v => v

/-- A scalar is all of itself. -/
theorem eq_of_bare {v w : Json} (h : w.bare = v.bare) (hv : v.bare ≠ .unheld) : w = v := by
  have hbare : ∀ u : Json, u.bare = u ∨ u.bare = .unheld := fun u => by
    cases u <;> first | exact .inl rfl | exact .inr rfl
  have hw : w.bare = w := (hbare w).resolve_right (h ▸ hv)
  rw [← hw, h]
  exact (hbare v).resolve_right hv

theorem Frame.bare_close (depth : Nat) (frame : Frame) : (frame.close depth).bare = .unheld := by
  unfold close
  split
  · rfl
  · split <;> rfl

/-- Two frames of one kind, whatever they hold. -/
inductive Frame.Alike : Frame → Frame → Prop where
  | array {items items' : List Json} : Alike (.array items) (.array items')
  | object {members members' : List (String × Json)} {key key' : Option String}
      {sound sound' : Bool} : Alike (.object members key sound) (.object members' key' sound')

/-- The same may come next, whatever a complete value holds. -/
inductive Expected.Alike : Expected → Expected → Prop where
  | value : Alike .value .value
  | valueOrClose : Alike .valueOrClose .valueOrClose
  | key : Alike .key .key
  | keyOrClose : Alike .keyOrClose .keyOrClose
  | colon : Alike .colon .colon
  | done {v v' : Json} (h : v'.bare = v.bare) : Alike (.done v) (.done v')

/-- A state that is another one with more frames below it, but for what the frames and values hold. -/
def Reader.Over (base : List Frame) (r r' : Reader) : Prop :=
  ∃ inner, r'.frames = inner ++ base ∧ List.Forall₂ Frame.Alike r.frames inner ∧
    r.expected.Alike r'.expected

section Over

variable {base frames inner : List Frame} {r r' s : Reader} {t : Token}

theorem Frame.Alike.take {f f' : Frame} (h : f.Alike f') (v v' : Json) :
    (f.take v).Alike (f'.take v') := by
  cases h with
  | array => exact .array
  | @object _ _ key key' =>
    cases key <;> cases key' <;> exact .object

theorem Reader.over_closed (f f' : Frame) (hinner : List.Forall₂ Frame.Alike frames inner) :
    Over base (closed f frames) (closed f' (inner ++ base)) :=
  ⟨inner, rfl, hinner, .done ((Frame.bare_close _ f').trans (Frame.bare_close _ f).symm)⟩

/-- Every token does the same above more frames. -/
theorem Reader.Over.step? (hover : Over base r r') (h : r.step? t = some s) :
    ∃ s', r'.step? t = some s' ∧ Over base s s' := by
  obtain ⟨frames, expected⟩ := r
  obtain ⟨frames', expected'⟩ := r'
  obtain ⟨inner, hframes, hinner, hexpected⟩ := hover
  obtain rfl : frames' = inner ++ base := hframes
  unfold Reader.step? at h
  simp only at h hinner hexpected
  split at h
  case h_18 => exact nomatch h
  all_goals
    obtain rfl := Option.some.inj h
    cases hexpected
  case h_1.value | h_2.valueOrClose =>
    exact ⟨_, rfl, _ :: inner, rfl, .cons .array hinner, .valueOrClose⟩
  case h_3.value | h_4.valueOrClose =>
    exact ⟨_, rfl, _ :: inner, rfl, .cons .object hinner, .keyOrClose⟩
  case h_5.value | h_6.valueOrClose | h_7.value | h_8.valueOrClose =>
    exact ⟨_, rfl, inner, rfl, hinner, .done rfl⟩
  case h_13.colon => exact ⟨_, rfl, inner, rfl, hinner, .value⟩
  -- the others look at the innermost frame, which is not one of those below
  all_goals
    obtain - | ⟨hf, hinner⟩ := hinner
    have hf' := hf
    cases hf'
  case h_10.key | h_11.keyOrClose => exact ⟨_, rfl, _ :: _, rfl, .cons .object hinner, .colon⟩
  case h_14.done => exact ⟨_, rfl, _ :: _, rfl, .cons (hf.take _ _) hinner, .value⟩
  case h_15.done => exact ⟨_, rfl, _ :: _, rfl, .cons (hf.take _ _) hinner, .key⟩
  all_goals exact ⟨_, rfl, over_closed _ _ hinner⟩

theorem Reader.Over.run? : ∀ {ts : List Token} {r r' : Reader}, Over base r r' →
    r.run? ts = some s → ∃ s', r'.run? ts = some s' ∧ Over base s s'
  | [], r, r', hover, h => by
    obtain rfl := Option.some.inj h
    exact ⟨r', rfl, hover⟩
  | t :: ts, r, r', hover, h => by
    rw [Reader.run?] at h
    split at h
    · rename_i r₁ hstep
      obtain ⟨r₁', hstep', hover'⟩ := hover.step? hstep
      rw [Reader.run?, hstep']
      exact hover'.run? h
    · exact nomatch h

/-- The tokens of a document are those of a value above whatever frames: a scalar is the same, and an
array or object is some array or object. -/
theorem Reader.run?_above {ts : List Token} {v : Json}
    (h : initial.run? ts = some ⟨[], .done v⟩) (base : List Frame) :
    ∃ v', v'.bare = v.bare ∧ Reader.run? ⟨base, .value⟩ ts = some ⟨base, .done v'⟩ := by
  have hover : Over base initial ⟨base, .value⟩ := ⟨[], rfl, .nil, .value⟩
  obtain ⟨⟨frames', e'⟩, hrun, inner, hframes, hinner, hexpected⟩ := hover.run? h
  obtain rfl : frames' = inner ++ base := hframes
  cases hinner
  cases hexpected with
  | done hbare => exact ⟨_, hbare, hrun⟩

end Over

/-! ### Texts of values -/

/-- A text is a value wherever one may stand below at most `depth` frames, and the value is such. -/
def Denotes (text : String) (depth : Nat) (P : Json → Prop) : Prop :=
  ∃ ts, Token.Scans text.toList ts ∧ ∀ base : List Frame, base.length ≤ depth →
    ∃ v, P v ∧ Reader.run? ⟨base, .value⟩ ts = some ⟨base, .done v⟩

section Denotes

variable {text : String} {depth : Nat} {P Q : Json → Prop} {v : Json}

theorem Denotes.mono (h : Denotes text depth P) (hPQ : ∀ v, P v → Q v) : Denotes text depth Q := by
  obtain ⟨ts, hscans, hruns⟩ := h
  refine ⟨ts, hscans, fun base hbase => ?_⟩
  obtain ⟨v, hv, hrun⟩ := hruns base hbase
  exact ⟨v, hPQ v hv, hrun⟩

/-- A value on its own is a document. -/
theorem Denotes.exists_read? (h : Denotes text depth P) : ∃ v, read? text = some v ∧ P v := by
  obtain ⟨ts, hscans, hruns⟩ := h
  obtain ⟨v, hv, hrun⟩ := hruns [] (Nat.zero_le depth)
  exact ⟨v, read?_eq_some_iff.mpr ⟨ts, hscans, hrun⟩, hv⟩

/-- A document is a value. -/
theorem denotes_of_read? (h : read? text = some v) (depth : Nat) :
    Denotes text depth fun v' => v'.bare = v.bare := by
  obtain ⟨ts, hscans, hrun⟩ := read?_eq_some_iff.mp h
  exact ⟨ts, hscans, fun base _ => Reader.run?_above hrun base⟩

theorem denotes_literal (h : Token.Scans text.toList [.literal v]) (depth : Nat) :
    Denotes text depth (· = v) := ⟨_, h, fun _ _ => ⟨v, rfl, rfl⟩⟩

theorem denotes_string {s : String} (h : Token.Scans text.toList [.string (some s)])
    (depth : Nat) : Denotes text depth (· = .text s) := ⟨_, h, fun _ _ => ⟨.text s, rfl, rfl⟩⟩

end Denotes

/-! ### Texts of objects -/

/-- A member, from the texts of its name and of its value. -/
def memberText (m : String × String) : String := m.1 ++ ":" ++ m.2

/-- An object, from the texts of the names and values of its members. -/
def objectText (ms : List (String × String)) : String :=
  "\x7b" ++ separated "," (ms.map memberText) ++ "\x7d"

/-- A member in its written form. -/
def memberTexts (m : String × Json) : String × String := (quoted m.1, m.2.compact)

theorem compactMembers_eq : ∀ members : List (String × Json),
    compactMembers members = (members.map memberTexts).map memberText
  | [] => rfl
  | (_, _) :: members => congrArg (_ :: ·) (compactMembers_eq members)

theorem compact_object (members : List (String × Json)) :
    (Json.object members).compact = objectText (members.map memberTexts) := by
  rw [compact, compactMembers_eq]
  rfl

section Objects

variable {ι : Type} {texts : ι → String × String} {depth : Nat} {R : ι → String × Json → Prop}

/-- The texts of an entry are those of a member: a name, and a value that goes with it. -/
def IsMember (texts : ι → String × String) (depth : Nat) (R : ι → String × Json → Prop) (i : ι) :
    Prop :=
  ∃ key, Token.Scans (texts i).1.toList [.string (some key)] ∧
    Denotes (texts i).2 depth fun v => R i (key, v)

theorem toList_memberText (m : String × String) :
    (memberText m).toList = m.1.toList ++ ':' :: m.2.toList := by
  rw [memberText, String.toList_append, String.toList_append, List.append_assoc]
  rfl

theorem toList_objectText (ms : List (String × String)) : (objectText ms).toList =
    '\x7b' :: ((separated "," (ms.map memberText)).toList ++ '\x7d' :: []) := by
  rw [objectText, String.toList_append, String.toList_append, List.append_assoc]
  rfl

theorem toList_separated_cons_cons (first second : String) (rest : List String) :
    (separated "," (first :: second :: rest)).toList =
      first.toList ++ ',' :: (separated "," (second :: rest)).toList := by
  rw [separated, String.toList_append, String.toList_append, List.append_assoc]
  · rfl
  · exact fun h => nomatch h

/-- A name and its colon, where a name may come next. -/
theorem Reader.run?_name {base : List Frame} {held : List (String × Json)} {last : Option String}
    {sound : Bool} {key : String} {e : Expected} (he : e = .key ∨ e = .keyOrClose)
    (ts : List Token) :
    Reader.run? ⟨.object held last sound :: base, e⟩ (.string (some key) :: .colon :: ts) =
      Reader.run? ⟨.object held (some key) sound :: base, .value⟩ ts := by
  rcases he with rfl | rfl <;> rfl

/-- What an object holds of some members, when it holds others already. -/
theorem members_read : ∀ {entries : List ι}, entries ≠ [] →
    (∀ i ∈ entries, IsMember texts (depth + 1) R i) →
      ∃ ts, Token.Scans (separated "," ((entries.map texts).map memberText)).toList ts ∧
        ∀ (base : List Frame) (held : List (String × Json)) (e : Expected),
          base.length ≤ depth → e = .key ∨ e = .keyOrClose →
            ∃ members, List.Forall₂ R entries members ∧
              Reader.run? ⟨.object held none true :: base, e⟩ (ts ++ [.closeObject]) =
                some (.closed (.object (members.reverse ++ held) none true) base)
  | [], hne, _ => absurd rfl hne
  | [i], _, h => by
    obtain ⟨key, hname, ts, hvalue, hruns⟩ := h i List.mem_cons_self
    refine ⟨.string (some key) :: .colon :: ts, ?_, fun base held e hbase he => ?_⟩
    · show Token.Scans (memberText (texts i)).toList _
      rw [toList_memberText]
      exact hname.punctuated rfl hvalue
    · obtain ⟨v, hv, hrun⟩ := hruns (.object held (some key) true :: base) (Nat.succ_le_succ hbase)
      refine ⟨[(key, v)], .cons hv .nil, ?_⟩
      rw [List.cons_append, List.cons_append, Reader.run?_name he, Reader.run?_append_of hrun]
      rfl
  | i :: j :: rest, _, h => by
    obtain ⟨key, hname, ts, hvalue, hruns⟩ := h i List.mem_cons_self
    obtain ⟨us, hrest, hmembers⟩ := members_read (List.cons_ne_nil j rest)
      fun k hk => h k (List.mem_cons_of_mem i hk)
    refine ⟨.string (some key) :: .colon :: (ts ++ .comma :: us), ?_,
      fun base held e hbase he => ?_⟩
    · rw [List.map_cons, List.map_cons, List.map_cons, List.map_cons, toList_separated_cons_cons,
        toList_memberText]
      exact (hname.punctuated rfl hvalue).punctuated rfl hrest
    · obtain ⟨v, hv, hrun⟩ := hruns (.object held (some key) true :: base) (Nat.succ_le_succ hbase)
      obtain ⟨members, hall, hrun'⟩ := hmembers base ((key, v) :: held) .key hbase (.inl rfl)
      refine ⟨(key, v) :: members, .cons hv hall, ?_⟩
      rw [List.cons_append, List.cons_append, List.append_assoc, Reader.run?_name he,
        Reader.run?_append_of hrun]
      show Reader.run? ⟨.object ((key, v) :: held) none true :: base, .key⟩ (us ++ [.closeObject]) = _
      rw [hrun', List.reverse_cons, List.append_assoc, List.singleton_append]

/-- The text of an object is a value that holds the members in order. -/
theorem denotes_objectText {entries : List ι} (hdepth : depth < maxDepth)
    (h : ∀ i ∈ entries, IsMember texts (depth + 1) R i) :
    Denotes (objectText (entries.map texts)) depth fun v =>
      ∃ members, v = .object members ∧ List.Forall₂ R entries members := by
  have hclose (members : List (String × Json)) {n : Nat} (hn : n ≤ depth) :
      (Frame.object members none true).close (n + 1) = .object members.reverse := by
    rw [Frame.close, if_neg (by omega)]
  unfold Denotes
  rw [toList_objectText]
  cases entries with
  | nil =>
    refine ⟨[.openObject, .closeObject], rfl, fun base hbase => ⟨.object [], ⟨[], rfl, .nil⟩, ?_⟩⟩
    show some (Reader.closed (.object [] none true) base) = _
    rw [Reader.closed, hclose [] hbase, List.reverse_nil]
  | cons i rest =>
    obtain ⟨ts, hscans, hruns⟩ := members_read (List.cons_ne_nil i rest) h
    refine ⟨.openObject :: (ts ++ [.closeObject]),
      .behind rfl (hscans.punctuated rfl .nil), fun base hbase => ?_⟩
    obtain ⟨members, hall, hrun⟩ := hruns base [] .keyOrClose hbase (.inr rfl)
    refine ⟨.object members, ⟨members, rfl, hall⟩, ?_⟩
    show Reader.run? ⟨.object [] none true :: base, .keyOrClose⟩ (ts ++ [.closeObject]) = _
    rw [hrun, List.append_nil, Reader.closed, hclose _ hbase, List.reverse_reverse]

/-- An object in its written form, if each of its values is read back from its own. -/
theorem denotes_object {members : List (String × Json)} (hdepth : depth < maxDepth)
    (h : ∀ m ∈ members, Denotes m.2.compact (depth + 1) (· = m.2)) :
    Denotes (Json.object members).compact depth (· = .object members) := by
  rw [compact_object]
  refine (denotes_objectText (R := fun m p => m = p) hdepth fun m hm => ?_).mono ?_
  · exact ⟨m.1, Token.scans_quoted m.1, (h m hm).mono fun v hv => congrArg (m.1, ·) hv.symm⟩
  · rintro v ⟨members', rfl, hall⟩
    rw [List.forall₂_eq_eq_eq] at hall
    rw [hall]

end Objects

/-! ### Members in any order and among others -/

/-- The texts of a member with a name that is none of these: the name is a string, and the value is any
document. -/
def Foreign (names : List String) (m : String × String) : Prop :=
  ∃ key, Token.Scans m.1.toList [.string (some key)] ∧ key ∉ names ∧ (read? m.2).isSome = true

/-- A list whose image is rearranged is rearranged with it. -/
theorem exists_perm_of_map {α β : Type} {f : α → β} {l : List α} {ms : List β}
    (h : ms.Perm (l.map f)) : ∃ l' : List α, l'.Perm l ∧ l'.map f = ms := by
  have hl : List.Forall₂ (fun m a => m = f a) (l.map f) l :=
    List.forall₂_map_left_iff.mpr (List.forall₂_same.mpr fun _ _ => rfl)
  obtain ⟨l', hl', hperm⟩ := List.perm_comp_forall₂ h hl
  have heq := List.forall₂_map_right_iff.mpr hl'
  rw [List.forall₂_eq_eq_eq] at heq
  exact ⟨l', hperm, heq.symm⟩

section Foreign

variable {names : List String}

/-- A member that is meant, or the texts of a foreign one. -/
abbrev Entry := (String × Json) ⊕ (String × String)

/-- What an entry is read as: the member that is meant, or one with some other name. -/
def Entry.Reads (names : List String) : Entry → String × Json → Prop
  | .inl m, p => m = p
  | .inr _, p => p.1 ∉ names

theorem exists_others : ∀ {entries : List Entry} {members : List (String × Json)},
    List.Forall₂ (Entry.Reads names) entries members →
      ∃ other, members.Perm (entries.filterMap Sum.getLeft? ++ other) ∧ ∀ m ∈ other, m.1 ∉ names
  | _, _, .nil => ⟨[], .nil, fun m hm => absurd hm List.not_mem_nil⟩
  | .inl m :: _, _, .cons (b := p) hp hrest => by
    obtain ⟨other, hperm, hother⟩ := exists_others hrest
    obtain rfl : m = p := hp
    exact ⟨other, hperm.cons m, hother⟩
  | .inr _ :: _, _, .cons (b := p) hp hrest => by
    obtain ⟨other, hperm, hother⟩ := exists_others hrest
    exact ⟨p :: other, (hperm.cons p).trans List.perm_middle.symm,
      List.forall_mem_cons.mpr ⟨hp, hother⟩⟩

/-- The text of an object with some members in their written form, in any order and among foreign ones,
is an object with these members and foreign ones. -/
theorem read?_of_texts {known : List (String × Json)} {texts others : List (String × String)}
    (hknown : ∀ m ∈ known, Denotes m.2.compact 1 (· = m.2))
    (hothers : ∀ m ∈ others, Foreign names m)
    (hperm : texts.Perm (known.map memberTexts ++ others)) :
    ∃ members other, read? (objectText texts) = some (.object members) ∧
      members.Perm (known ++ other) ∧ ∀ m ∈ other, m.1 ∉ names := by
  have htexts : known.map memberTexts ++ others =
      (known.map Sum.inl ++ others.map Sum.inr).map (Sum.elim memberTexts id) := by
    simp only [List.map_append, List.map_map, Function.comp_def, Sum.elim_inl, Sum.elim_inr, id,
      List.map_id']
  rw [htexts] at hperm
  obtain ⟨entries, hentries, rfl⟩ := exists_perm_of_map hperm
  have hmember : ∀ i ∈ entries, IsMember (Sum.elim memberTexts id) 1 (Entry.Reads names) i := by
    intro i hi
    rcases List.mem_append.mp (hentries.subset hi) with hi | hi
    · obtain ⟨m, hm, rfl⟩ := List.mem_map.mp hi
      exact ⟨m.1, Token.scans_quoted m.1, (hknown m hm).mono fun v hv => congrArg (m.1, ·) hv.symm⟩
    · obtain ⟨m, hm, rfl⟩ := List.mem_map.mp hi
      obtain ⟨key, hkey, hforeign, hvalue⟩ := hothers m hm
      obtain ⟨v, hv⟩ := Option.isSome_iff_exists.mp hvalue
      exact ⟨key, hkey, (denotes_of_read? hv 1).mono fun _ _ => hforeign⟩
  have hdepth : 0 < maxDepth := by decide
  obtain ⟨_, hread, members, rfl, hall⟩ := (denotes_objectText hdepth hmember).exists_read?
  obtain ⟨other, hmembers, hother⟩ := exists_others hall
  have hleft : (entries.filterMap Sum.getLeft?).Perm known := by
    refine (hentries.filterMap Sum.getLeft?).trans (.of_eq ?_)
    simp [Function.comp_def]
  exact ⟨members, other, hread, hmembers.trans (hleft.append_right other), hother⟩

end Foreign

end Portrayal.Json
