import Portrayal.Proofs.Members

/-!
One more member in a document. The place of an object is the way to it from the outside, by names and by
positions, and a member may be inserted there in front of another one, behind one, or alone:

    {"a": [5, {"b": 1}]}               the object at a, 1
    {"a": [5, {"c": null, "b": 1}]}    a member in front of b
    {"a": [5, {"b": 1, "c": null}]}    a member behind b

From there on the reader goes on as before, with one frame that holds the member as well, and when that
frame is closed, with one value that does.

Main statements: a text with the tokens of a member put in is the document with the member in the object at
that place, whatever its value is; and tokens are put in by writing the member behind a brace or a comma, in
front of one, or between two braces.
-/

namespace Portrayal.Json

/-- A step of the way into a document: to a member, whose name may be one that no string holds, or to an
item. -/
inductive Step where
  | member (name : Option String)
  | item (index : Nat)

/-- A document, and the same one with a member of some name in the object at a place. What cannot be held
is the same with it. -/
inductive Grown (name : String) : List Step → Json → Json → Prop where
  | here {before after : List (String × Json)} {v : Json} :
      Grown name [] (.object (before ++ after)) (.object (before ++ (name, v) :: after))
  | member {place : List Step} {before after : List (String × Json)} {key : String} {v v' : Json}
      (h : Grown name place v v') :
      Grown name (.member (some key) :: place) (.object (before ++ (key, v) :: after))
        (.object (before ++ (key, v') :: after))
  | item {place : List Step} {before after : List Json} {v v' : Json} (h : Grown name place v v') :
      Grown name (.item before.length :: place) (.array (before ++ v :: after))
        (.array (before ++ v' :: after))
  | unheld {place : List Step} : Grown name place .unheld .unheld

/-! ### Frames and states of the reader -/

/-- The step from an open frame to what is read inside of it. -/
def Frame.step : Frame → Step
  | .array items => .item items.length
  | .object _ key _ => .member key

/-- The way through open frames, which are given innermost first. -/
def way (frames : List Frame) : List Step := (frames.map Frame.step).reverse

/-- An open frame, and the same one with a member at a place inside of it. What an object holds is of no
account once it has a name that no string holds. -/
inductive Frame.Grown (name : String) : List Step → Frame → Frame → Prop where
  | here (late early : List (String × Json)) {key : Option String} {sound : Bool} {v : Json} :
      Grown name [] (.object (late ++ early) key sound)
        (.object (late ++ (name, v) :: early) key sound)
  | member {place : List Step} (late early : List (String × Json)) {within : String}
      {key : Option String} {sound : Bool} {v v' : Json} (h : v.Grown name place v') :
      Grown name (.member (some within) :: place) (.object (late ++ (within, v) :: early) key sound)
        (.object (late ++ (within, v') :: early) key sound)
  | item {place : List Step} (late early : List Json) {v v' : Json} (h : v.Grown name place v') :
      Grown name (.item early.length :: place) (.array (late ++ v :: early))
        (.array (late ++ v' :: early))
  | unsound {place : List Step} {members members' : List (String × Json)} {key : Option String} :
      Grown name place (.object members key false) (.object members' key false)

/-- A state of the reader, and the same one with a member at a place: inside a frame that is open, or
inside a value that is complete. -/
inductive Reader.Grown (name : String) : List Step → Reader → Reader → Prop where
  | inside {rest : List Step} (inner : List Frame) {base : List Frame} {f f' : Frame} {e : Expected}
      (h : f.Grown name rest f') :
      Grown name (way base ++ rest) ⟨inner ++ f :: base, e⟩ ⟨inner ++ f' :: base, e⟩
  | done {rest : List Step} {frames : List Frame} {v v' : Json} (h : v.Grown name rest v') :
      Grown name (way frames ++ rest) ⟨frames, .done v⟩ ⟨frames, .done v'⟩

section Steps

variable {name : String} {place rest : List Step} {f f' : Frame} {base : List Frame} {v v' : Json}

theorem way_cons (f : Frame) (base : List Frame) (rest : List Step) :
    way (f :: base) ++ rest = way base ++ f.step :: rest := by
  rw [way, way, List.map_cons, List.reverse_cons, List.append_assoc, List.singleton_append]

/-- A frame takes a value in at the step from it. -/
theorem Grown.taken (h : v.Grown name rest v') (f : Frame) :
    (f.take v).Grown name (f.step :: rest) (f.take v') := by
  match f with
  | .array items => exact .item [] items h
  | .object members (some key) sound => exact .member [] members h
  | .object members none sound => exact .unsound

namespace Frame.Grown

/-- One more value in both frames. -/
theorem take (h : f.Grown name rest f') (v : Json) : (f.take v).Grown name rest (f'.take v) := by
  cases h with
  | @here late early key =>
    cases key with
    | none => exact .unsound
    | some key => exact .here ((key, v) :: late) early
  | @member _ late early _ key _ _ _ h =>
    cases key with
    | none => exact .unsound
    | some key => exact .member ((key, v) :: late) early h
  | item late early h => exact .item (v :: late) early h
  | @unsound _ _ _ key => cases key <;> exact .unsound

theorem array {items : List Json} (h : (Frame.array items).Grown name rest f') :
    ∃ items', f' = .array items' := by
  cases h
  exact ⟨_, rfl⟩

/-- The name that was read last makes no difference. -/
theorem object {members : List (String × Json)} {key : Option String} {sound : Bool}
    (h : (Frame.object members key sound).Grown name rest f') : ∃ members',
      f' = .object members' key sound ∧
        ∀ key, (Frame.object members key sound).Grown name rest (.object members' key sound) := by
  cases h with
  | here late early => exact ⟨_, rfl, fun _ => .here late early⟩
  | member late early h => exact ⟨_, rfl, fun _ => .member late early h⟩
  | unsound => exact ⟨_, rfl, fun _ => .unsound⟩

theorem close (h : f.Grown name rest f') (depth : Nat) :
    (f.close depth).Grown name rest (f'.close depth) := by
  unfold Frame.close
  by_cases hdepth : maxDepth < depth
  · rw [if_pos hdepth, if_pos hdepth]
    exact .unheld
  · rw [if_neg hdepth, if_neg hdepth]
    cases h with
    | @here late early _ sound =>
      cases sound with
      | false => exact .unheld
      | true =>
        simp only [List.reverse_append, List.reverse_cons, List.append_assoc, List.singleton_append]
        exact .here
    | @member _ late early _ _ sound _ _ h =>
      cases sound with
      | false => exact .unheld
      | true =>
        simp only [List.reverse_append, List.reverse_cons, List.append_assoc, List.singleton_append]
        exact .member h
    | @item _ late early _ _ h =>
      simp only [List.reverse_append, List.reverse_cons, List.append_assoc, List.singleton_append]
      rw [← List.length_reverse]
      exact .item h
    | unsound => exact .unheld

end Frame.Grown

/-! ### What a token does -/

/-- A token does not look below the innermost frame, but for how many frames there are. -/
theorem Reader.step?_rebase {f : Frame} {inner frames frames' : List Frame} {e : Expected} {t : Token}
    {s : Reader} (hlength : frames.length = frames'.length)
    (h : Reader.step? ⟨f :: inner ++ frames, e⟩ t = some s) : ∃ inner' e',
      s = ⟨inner' ++ frames, e'⟩ ∧
        Reader.step? ⟨f :: inner ++ frames', e⟩ t = some ⟨inner' ++ frames', e'⟩ := by
  have hdepth : (inner ++ frames').length = (inner ++ frames).length := by
    rw [List.length_append, List.length_append, hlength]
  have hclosed (g : Frame) : Reader.closed g (inner ++ frames') =
      ⟨inner ++ frames', .done (g.close ((inner ++ frames).length + 1))⟩ := by
    rw [Reader.closed, hdepth]
  unfold Reader.step? at h
  simp only [List.cons_append] at h
  split at h
  case h_18 => cases h
  all_goals obtain rfl := Option.some.inj h
  case h_1 | h_2 | h_3 | h_4 => exact ⟨_ :: f :: inner, _, rfl, rfl⟩
  case h_5 | h_6 | h_7 | h_8 | h_13 => exact ⟨f :: inner, _, rfl, rfl⟩
  -- the others look at the innermost frame, which is `f` in both states
  all_goals
    rename_i hframes
    obtain ⟨rfl, rfl⟩ := List.cons.inj hframes
  case h_10 | h_11 | h_14 | h_15 => exact ⟨_ :: inner, _, rfl, rfl⟩
  all_goals exact ⟨inner, _, rfl, congrArg some (hclosed _)⟩

theorem Reader.Grown.closed (h : f.Grown name rest f') :
    (Reader.closed f base).Grown name (way base ++ rest) (Reader.closed f' base) :=
  .done (h.close _)

/-- A token does the same to a state with one more member, which is then at the same place. -/
theorem Reader.Grown.step? {r r' s : Reader} {t : Token} (h : r.Grown name place r')
    (hstep : r.step? t = some s) : ∃ s', r'.step? t = some s' ∧ s.Grown name place s' := by
  cases h with
  | @inside rest inner base f f' e hf =>
    cases inner with
    | cons g inner =>
      have hlength : (f :: base).length = (f' :: base).length := rfl
      obtain ⟨inner', e', rfl, hstep'⟩ := step?_rebase hlength hstep
      exact ⟨_, hstep', .inside inner' hf⟩
    | nil =>
      rw [List.nil_append] at hstep ⊢
      unfold Reader.step? at hstep
      simp only at hstep
      split at hstep
      case h_18 => cases hstep
      all_goals obtain rfl := Option.some.inj hstep
      case h_1 | h_2 | h_3 | h_4 => exact ⟨_, rfl, .inside [_] hf⟩
      case h_5 | h_6 | h_7 | h_8 | h_13 => exact ⟨_, rfl, .inside [] hf⟩
      all_goals
        rename_i hframes
        obtain ⟨rfl, rfl⟩ := List.cons.inj hframes
      case h_9 =>
        obtain ⟨items', rfl⟩ := hf.array
        exact ⟨_, rfl, .closed hf⟩
      case h_14 =>
        obtain ⟨items', rfl⟩ := hf.array
        exact ⟨_, rfl, .inside [] (hf.take _)⟩
      case h_16 =>
        obtain ⟨items', rfl⟩ := hf.array
        exact ⟨_, rfl, .closed (hf.take _)⟩
      all_goals obtain ⟨members', rfl, hkey⟩ := hf.object
      case h_10 | h_11 => exact ⟨_, rfl, .inside [] (hkey _)⟩
      case h_12 => exact ⟨_, rfl, .closed hf⟩
      case h_15 => exact ⟨_, rfl, .inside [] (hf.take _)⟩
      case h_17 => exact ⟨_, rfl, .closed (hf.take _)⟩
  | @done rest frames v v' hv =>
    -- a complete value goes into the innermost frame, which may be closed with it
    cases frames with
    | nil => cases t <;> exact nomatch hstep
    | cons g base =>
      have htaken := hv.taken g
      rw [way_cons]
      cases g with
      | array items =>
        cases t with
        | comma =>
          obtain rfl := Option.some.inj hstep
          exact ⟨_, rfl, .inside [] htaken⟩
        | closeArray =>
          obtain rfl := Option.some.inj hstep
          exact ⟨_, rfl, .closed htaken⟩
        | _ => exact nomatch hstep
      | object members key sound =>
        cases t with
        | comma =>
          obtain rfl := Option.some.inj hstep
          exact ⟨_, rfl, .inside [] htaken⟩
        | closeObject =>
          obtain rfl := Option.some.inj hstep
          exact ⟨_, rfl, .closed htaken⟩
        | _ => exact nomatch hstep

theorem Reader.Grown.run? : ∀ {ts : List Token} {r r' s : Reader}, r.Grown name place r' →
    r.run? ts = some s → ∃ s', r'.run? ts = some s' ∧ s.Grown name place s'
  | [], r, r', s, hgrown, h => by
    obtain rfl := Option.some.inj h
    exact ⟨r', rfl, hgrown⟩
  | t :: ts, r, r', s, hgrown, h => by
    rw [Reader.run?] at h
    split at h
    · rename_i r₁ hstep
      obtain ⟨r₁', hstep', hgrown'⟩ := hgrown.step? hstep
      rw [Reader.run?, hstep']
      exact hgrown'.run? h
    · cases h

/-- Where the reading ends with a document, it ends with the document and the member. -/
theorem Reader.Grown.read {ts : List Token} {r r' : Reader} (hgrown : r.Grown name place r')
    (h : r.run? ts = some ⟨[], .done v⟩) :
    ∃ v', r'.run? ts = some ⟨[], .done v'⟩ ∧ v.Grown name place v' := by
  obtain ⟨s', hrun, hs'⟩ := hgrown.run? h
  generalize hs : (⟨[], .done v⟩ : Reader) = s at hs'
  cases hs' with
  | @inside _ inner =>
    have hframes := congrArg Reader.frames hs
    exact absurd hframes (by simp)
  | done hv =>
    obtain ⟨rfl, hdone⟩ := Reader.mk.inj hs
    obtain rfl := Expected.done.inj hdone
    exact ⟨_, hrun, hv⟩

/-! ### Tokens put in -/

/-- Tokens with those of a member put in before them, where something may come next in an object: in
front of a member, into an object without any, or behind a value. -/
inductive Inserts (member : List Token) : Expected → List Token → List Token → Prop where
  | front {e : Expected} (s : Option String) (rest : List Token) (he : e = .key ∨ e = .keyOrClose) :
      Inserts member e (.string s :: rest) (member ++ .comma :: .string s :: rest)
  | alone (rest : List Token) :
      Inserts member .keyOrClose (.closeObject :: rest) (member ++ .closeObject :: rest)
  | behind {v : Json} (rest : List Token) : Inserts member (.done v) rest (.comma :: member ++ rest)

section Inserts

variable {held : List (String × Json)} {key : Option String} {sound : Bool} {e : Expected}
  {value ts ts' : List Token}

/-- The tokens of a member are read where a name may come next, and they leave a value to be taken in. -/
theorem Reader.run?_member (hvalue : initial.run? value = some ⟨[], .done v⟩)
    (he : e = .key ∨ e = .keyOrClose) (held : List (String × Json)) (key : Option String)
    (sound : Bool) (base : List Frame) : ∃ v', ∀ rest,
      Reader.run? ⟨.object held key sound :: base, e⟩
          (.string (some name) :: .colon :: value ++ rest) =
        Reader.run? ⟨.object held (some name) sound :: base, .done v'⟩ rest := by
  obtain ⟨v', -, hrun⟩ := run?_above hvalue (.object held (some name) sound :: base)
  refine ⟨v', fun rest => ?_⟩
  rw [List.cons_append, List.cons_append, run?_name he, run?_append_of hrun]

/-- Reading on with the tokens of a member put in gives the document with the member. -/
theorem Inserts.read (h : Inserts (.string (some name) :: .colon :: value) e ts ts')
    (hvalue : Reader.initial.run? value = some ⟨[], .done v⟩) {doc : Json}
    (hrun : Reader.run? ⟨.object held key sound :: base, e⟩ ts = some ⟨[], .done doc⟩) :
    ∃ doc', Reader.run? ⟨.object held key sound :: base, e⟩ ts' = some ⟨[], .done doc'⟩ ∧
      doc.Grown name (way base) doc' := by
  have hhere (held : List (String × Json)) (key : Option String) (sound : Bool) (v : Json) :
      (Frame.object held key sound).Grown name [] (.object ((name, v) :: held) key sound) :=
    .here [] held
  rw [← List.append_nil (way base)]
  cases h with
  | @front _ s rest he =>
    obtain ⟨v', hmember⟩ := Reader.run?_member hvalue he held key sound base
    rw [hmember]
    have hrun' : Reader.run? ⟨.object held s sound :: base, .colon⟩ rest = some ⟨[], .done doc⟩ := by
      rcases he with rfl | rfl <;> exact hrun
    have hgrown : Reader.Grown name (way base ++ []) ⟨.object held s sound :: base, .colon⟩
      ⟨.object ((name, v') :: held) s sound :: base, .colon⟩ := .inside [] (hhere ..)
    exact hgrown.read hrun'
  | @alone rest =>
    obtain ⟨v', hmember⟩ := Reader.run?_member hvalue (.inr rfl) held key sound base
    rw [hmember]
    have hclosed : Reader.closed (.object held key sound) base =
        .closed (.object held none sound) base := by
      cases sound <;> rfl
    have hrun' : (Reader.closed (.object held none sound) base).run? rest = some ⟨[], .done doc⟩ :=
      hclosed ▸ hrun
    exact (Reader.Grown.closed (hhere held none sound v')).read hrun'
  | @behind w =>
    -- a value that is taken in leaves no name behind
    obtain ⟨held', sound', htake⟩ : ∃ held' sound',
        (Frame.object held key sound).take w = .object held' none sound' := by
      cases key <;> exact ⟨_, _, rfl⟩
    obtain ⟨v', hmember⟩ := Reader.run?_member hvalue (.inl rfl) held' none sound' base
    have hnext : Reader.run? ⟨.object held key sound :: base, .done w⟩
        (.comma :: .string (some name) :: .colon :: value ++ ts) =
          Reader.run? ⟨.object held' (some name) sound' :: base, .done v'⟩ ts := by
      rw [← hmember, ← htake]
      rfl
    rw [hnext]
    have hgrown := hhere held' none sound' v'
    match ts, hrun with
    | .comma :: rest, hrun =>
      have hrun' : Reader.run? ⟨.object held' none sound' :: base, .key⟩ rest =
          some ⟨[], .done doc⟩ := htake ▸ hrun
      exact (Reader.Grown.inside [] hgrown).read hrun'
    | .closeObject :: rest, hrun =>
      have hrun' : (Reader.closed (.object held' none sound') base).run? rest =
          some ⟨[], .done doc⟩ := htake ▸ hrun
      exact (Reader.Grown.closed hgrown).read hrun'

end Inserts

end Steps

/-! ### Texts -/

/-- A text, and one with the tokens of a member put in, in the object at a place. The value of the member
may be any document. Blanks between the tokens are of no account. -/
inductive Inserted (name : String) (place : List Step) (text text' : String) : Prop where
  | intro {before after after' value : List Token} {held : List (String × Json)}
      {key : Option String} {sound : Bool} {base : List Frame} {e : Expected} {v : Json}
      (htext : Token.Scans text.toList (before ++ after))
      (hbefore : Reader.initial.run? before = some ⟨.object held key sound :: base, e⟩)
      (hplace : way base = place)
      (hvalue : Reader.initial.run? value = some ⟨[], .done v⟩)
      (hafter : Inserts (.string (some name) :: .colon :: value) e after after')
      (htext' : Token.Scans text'.toList (before ++ after'))

/-- A text with a member put in is the document with one more member at that place. -/
theorem Inserted.read? {name : String} {place : List Step} {text text' : String} {doc : Json}
    (h : Inserted name place text text') (hread : Json.read? text = some doc) :
    ∃ doc', Json.read? text' = some doc' ∧ doc.Grown name place doc' := by
  obtain ⟨htext, hbefore, rfl, hvalue, hafter, htext'⟩ := h
  obtain ⟨ts, hts, hrun⟩ := read?_eq_some_iff.mp hread
  obtain rfl := Option.some.inj (htext.symm.trans hts)
  rw [Reader.run?_append_of hbefore] at hrun
  obtain ⟨doc', hrun', hgrown⟩ := hafter.read hvalue hrun
  refine ⟨doc', read?_eq_some_iff.mpr ⟨_, htext', ?_⟩, hgrown⟩
  rw [Reader.run?_append_of hbefore, hrun']

section Splices

variable {name : String} {m : String × String} {v w : Json} {cs ds : List Char} {c : Char} {t : Token}
  {before after : List Token} {s : Option String} {held : List (String × Json)} {key : Option String}
  {sound : Bool} {base : List Frame} {e : Expected}

/-- The tokens of a written member are its name, a colon and those of its value. -/
theorem scans_memberText (hname : Token.Scans m.1.toList [.string (some name)])
    (hvalue : read? m.2 = some v) : ∃ value, Reader.initial.run? value = some ⟨[], .done v⟩ ∧
      Token.Scans (memberText m).toList (.string (some name) :: .colon :: value) := by
  obtain ⟨value, hscans, hrun⟩ := read?_eq_some_iff.mp hvalue
  refine ⟨value, hrun, ?_⟩
  rw [toList_memberText]
  exact hname.punctuated rfl hscans

/-- A member may be written behind the brace or the comma in front of another one. -/
theorem inserted_front (hname : Token.Scans m.1.toList [.string (some name)])
    (hvalue : read? m.2 = some v) (hc : punctuation? c = some t) (hcs : Token.Scans cs before)
    (hds : Token.Scans ds (.string s :: after))
    (hrun : Reader.initial.run? (before ++ [t]) = some ⟨.object held key sound :: base, e⟩)
    (he : e = .key ∨ e = .keyOrClose) :
    Inserted name (way base) (.ofList (cs ++ c :: ds))
      (.ofList (cs ++ c :: (memberText m).toList ++ ',' :: ds)) := by
  obtain ⟨value, hvalue, hmember⟩ := scans_memberText hname hvalue
  refine .intro ?_ hrun rfl hvalue (.front s after he) ?_
  · rw [String.toList_ofList, List.append_assoc]
    exact hcs.punctuated hc hds
  · rw [String.toList_ofList, List.append_assoc, List.append_assoc]
    exact hcs.punctuated hc (hmember.punctuated rfl hds)

/-- A member may be written in front of the comma or the brace behind another one. -/
theorem inserted_behind (hname : Token.Scans m.1.toList [.string (some name)])
    (hvalue : read? m.2 = some v) (hc : punctuation? c = some t) (hcs : Token.Scans cs before)
    (hds : Token.Scans ds after)
    (hrun : Reader.initial.run? before = some ⟨.object held key sound :: base, .done w⟩) :
    Inserted name (way base) (.ofList (cs ++ c :: ds))
      (.ofList (cs ++ ',' :: (memberText m).toList ++ c :: ds)) := by
  obtain ⟨value, hvalue, hmember⟩ := scans_memberText hname hvalue
  refine .intro ?_ hrun rfl hvalue (.behind (t :: after)) ?_
  · rw [String.toList_ofList]
    exact hcs.punctuated hc hds
  · rw [String.toList_ofList, List.append_assoc]
    exact hcs.punctuated rfl (hmember.punctuated hc hds)

/-- A member may be written into an object without any. -/
theorem inserted_alone (hname : Token.Scans m.1.toList [.string (some name)])
    (hvalue : read? m.2 = some v) (hcs : Token.Scans cs before) (hds : Token.Scans ds after)
    (hrun : Reader.initial.run? (before ++ [.openObject]) =
      some ⟨.object held key sound :: base, .keyOrClose⟩) :
    Inserted name (way base) (.ofList (cs ++ '\x7b' :: '\x7d' :: ds))
      (.ofList (cs ++ '\x7b' :: (memberText m).toList ++ '\x7d' :: ds)) := by
  obtain ⟨value, hvalue, hmember⟩ := scans_memberText hname hvalue
  refine .intro ?_ hrun rfl hvalue (.alone after) ?_
  · rw [String.toList_ofList, List.append_assoc]
    exact hcs.punctuated rfl (.behind rfl hds)
  · rw [String.toList_ofList, List.append_assoc, List.append_assoc]
    exact hcs.punctuated rfl (hmember.punctuated rfl hds)

end Splices

end Portrayal.Json
