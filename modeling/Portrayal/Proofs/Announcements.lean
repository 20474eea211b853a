import Portrayal.Proofs.Journal
import Portrayal.Proofs.Drafts

/-!
What is printed about rules. Two things keep a warning from being printed again: the record of a rule,
which copies of the rule share, and the journal, which knows what it printed. A rule that is restricted
starts over with a record of its own, so the same warning can come up under several records:

    rule resolved for lines       record              journal
    `polygon-fill`                marks lines         prints a line
    a copy of it                  has lines marked    is not asked
    a restricted copy of it       marks lines         knows the warning

Main statement: whatever rules are made, copied, restricted and resolved, the lines that are printed are
the ones that a journal without records prints, which is asked at every encounter: the distinct lines, each
once, in the order in which they are first asked for.
-/

namespace Portrayal

/-! ### What a resolution gives notice of -/

/-- What there is to warn of when a value is written to a target. -/
def Target.requests (target : Target) (v : Value) : List Warning :=
  match target with
  | .fontSize => if v.number?.isSome then [] else [.sizeNotNumeric v]
  | .property .globalCompositeOperation =>
    if (compositeOperation? v.shown).isSome then [] else [.unknownOperation v.shown]
  | _ => []

namespace Rule

/-- What there is to warn of at every encounter of a rule, whatever its record is. -/
def requests (kind : Kind) (s : Situation) (r : Rule) : List Warning :=
  match kind.target? r.property with
  | none => [.unmappedProperty r.property kind]
  | some target => (r.evaluate s).elim [] target.requests

/-- The notices of applying a rule. -/
def notices (kind : Kind) (s : Situation) (r : Rule) : List Notice :=
  match kind.target? r.property with
  | none => [.unmapped r.record r.property kind]
  | some target => ((r.evaluate s).elim [] target.requests).map .warning

end Rule

/-- The warning that a notice asks for. -/
def Notice.request : Notice → Warning
  | .warning w => w
  | .unmapped _ property kind => .unmappedProperty property kind

theorem Rule.map_request_notices (kind : Kind) (s : Situation) (r : Rule) :
    (r.notices kind s).map Notice.request = r.requests kind s := by
  rw [notices, requests]
  cases kind.target? r.property with
  | none => rfl
  | some target =>
    rw [List.map_map]
    exact List.map_id _

namespace Draft

theorem notices_write (d : Draft) (target : Target) (v : Value) :
    (d.write target v).notices = d.notices ++ (target.requests v).map .warning := by
  rcases target with p | _ | _
  · by_cases hp : p = .globalCompositeOperation
    · subst hp
      rw [write, Target.requests]
      cases compositeOperation? v.shown with
      | none => rfl
      | some operation => exact (List.append_nil _).symm
    · rw [write_property hp]
      have hnone : (Target.property p).requests v = [] := by
        cases p <;> first | rfl | exact absurd rfl hp
      rw [hnone]
      exact (List.append_nil _).symm
  · rw [write, Target.requests]
    cases v.number? with
    | none => rfl
    | some size => exact (List.append_nil _).symm
  · exact (List.append_nil _).symm

theorem notices_apply (kind : Kind) (s : Situation) (d : Draft) (r : Rule) :
    (d.apply kind s r).notices = d.notices ++ r.notices kind s := by
  rw [apply, Rule.notices]
  cases kind.target? r.property with
  | none => rfl
  | some target =>
    cases r.evaluate s with
    | none => exact (List.append_nil _).symm
    | some v => exact notices_write d target v

theorem notices_foldl (kind : Kind) (s : Situation) : ∀ (rules : List Rule) (d : Draft),
    (rules.foldl (apply kind s) d).notices = d.notices ++ rules.flatMap (Rule.notices kind s)
  | [], d => (List.append_nil d.notices).symm
  | r :: rules, d => by
    rw [List.foldl_cons, notices_foldl kind s rules, notices_apply, List.flatMap_cons,
      List.append_assoc]

end Draft

/-- Rules give notice one after the other, each at every encounter. -/
theorem Style.notices_ofRules (kind : Kind) (s : Situation) (rules : List Rule) :
    (ofRules kind s rules).notices = rules.flatMap (Rule.notices kind s) :=
  Draft.notices_foldl kind s rules .empty

/-- A notice that is about one of some rules: the record is the one of a rule for the property, or the
warning is about its value. -/
def Notice.About (rules : List Rule) : Notice → Prop
  | .warning w => w.component = "Style"
  | .unmapped record property _ => ∃ r ∈ rules, r.record = record ∧ r.property = property

theorem Notice.About.mono {rules rules' : List Rule} {n : Notice} (h : n.About rules)
    (hrules : ∀ r ∈ rules, r ∈ rules') : n.About rules' := by
  cases n with
  | warning w => exact h
  | unmapped record property kind =>
    obtain ⟨r, hr, hrecord⟩ := h
    exact ⟨r, hrules r hr, hrecord⟩

theorem Target.component_of_mem_requests {target : Target} {v : Value} {w : Warning}
    (h : w ∈ target.requests v) : w.component = "Style" := by
  unfold requests at h
  split at h
  · split at h
    · exact absurd h (by simp)
    · obtain rfl := List.mem_singleton.mp h
      rfl
  · split at h
    · exact absurd h (by simp)
    · obtain rfl := List.mem_singleton.mp h
      rfl
  · exact absurd h (by simp)

theorem Style.about_of_mem_notices {kind : Kind} {s : Situation} {rules : List Rule} {n : Notice}
    (h : n ∈ (ofRules kind s rules).notices) : n.About rules := by
  rw [notices_ofRules, List.mem_flatMap] at h
  obtain ⟨r, hr, hn⟩ := h
  rw [Rule.notices] at hn
  split at hn
  · obtain rfl := List.mem_singleton.mp hn
    exact ⟨r, hr, rfl, rfl⟩
  · cases hvalue : r.evaluate s with
    | none =>
      rw [hvalue] at hn
      exact absurd hn (by simp)
    | some v =>
      rw [hvalue] at hn
      obtain ⟨w, hw, rfl⟩ := List.mem_map.mp hn
      exact Target.component_of_mem_requests hw

/-! ### Sessions with rules -/

/-- Something that is done with rules. Rules are made, copied and restricted; some of those that there are
get resolved, as often and in whatever order. -/
inductive Job where
  | make (property : String) (evaluator : Evaluator)
  | copy (i : Nat)
  | zoomRange (i : Nat) (least greatest : Option Float)
  | filtered (i : Nat)
  | base (kind : Kind) (attributes : Attributes) (zoom : Float) (picked : List Nat)
  | highlight (below : Style) (kind : Kind) (s : Situation) (picked : List Nat)

/-- The rules that there are, and what their resolutions came to. -/
structure Session where
  supply : RecordSupply
  rules : List Rule
  notices : List Notice
  /-- What a journal without records is asked for, at every encounter of a rule. -/
  requests : List Warning

namespace Session

/-- No rule and no record yet. -/
def initial : Session := ⟨.initial, [], [], []⟩

/-- The session with one more rule. -/
def add (w : Session) (step : StateM RecordSupply Rule) : Session :=
  let (r, supply) := step.run w.supply
  { w with supply, rules := w.rules ++ [r] }

/-- The session with a rule that is made from one of its rules, if it has that one. -/
def derive (w : Session) (i : Nat) (f : Rule → StateM RecordSupply Rule) : Session :=
  match w.rules[i]? with
  | some r => w.add (f r)
  | none => w

/-- Some of the rules, in an order and as often as given. -/
def pick (w : Session) (picked : List Nat) : List Rule := picked.filterMap fun i => w.rules[i]?

/-- The session after a resolution of rules for a kind in a situation. -/
def resolved (w : Session) (kind : Kind) (s : Situation) (rules : List Rule) (result : Noted Style) :
    Session :=
  { w with
    notices := w.notices ++ result.notices
    requests := w.requests ++ rules.flatMap (Rule.requests kind s) }

/-- The session after a job. -/
def perform (w : Session) : Job → Session
  | .make property evaluator => w.add (Rule.make property evaluator)
  | .copy i => w.derive i fun r => pure r
  | .zoomRange i least greatest => w.derive i fun r => r.zoomRange least greatest
  | .filtered i => w.derive i Rule.filtered
  | .base kind attributes zoom picked =>
    let rules := w.pick picked
    w.resolved kind ⟨attributes, zoom, some true⟩ rules (Style.baseOfRules kind attributes zoom rules)
  | .highlight below kind s picked =>
    let rules := w.pick picked
    w.resolved kind s rules (below.highlighted kind s (.ofRules rules))

/-- The session after jobs. -/
def run (jobs : List Job) : Session := jobs.foldl perform initial

/-- Records are those given out before, rules that share one are for the same property, notices are
about the rules, and they are all that there was to warn of. -/
structure Sound (w : Session) : Prop where
  given : ∀ r ∈ w.rules, r.record.value < w.supply.next
  shared : ∀ q ∈ w.rules, ∀ r ∈ w.rules, q.record = r.record → q.property = r.property
  about : ∀ n ∈ w.notices, n.About w.rules
  requested : w.notices.map Notice.request = w.requests

variable {w : Session}

theorem sound_initial : initial.Sound :=
  ⟨by simp [initial], by simp [initial], by simp [initial], rfl⟩

/-- A rule with a new record shares it with no other. -/
theorem Sound.make (h : w.Sound) (property : String) (evaluator : Evaluator) :
    (w.add (Rule.make property evaluator)).Sound where
  given := by
    refine List.forall_mem_append.mpr ⟨fun r hr => Nat.lt_succ_of_lt (h.given r hr), ?_⟩
    exact List.forall_mem_singleton.mpr (Nat.lt_succ_self w.supply.next)
  shared := by
    have hnew : ∀ r ∈ w.rules, r.record ≠ ⟨w.supply.next⟩ := fun r hr hrecord => by
      have hgiven := h.given r hr
      rw [hrecord] at hgiven
      exact Nat.lt_irrefl _ hgiven
    intro q hq r hr hrecord
    -- two rules of before, the new one and one of before, or the new one twice
    rcases List.mem_append.mp hq with hq | hq <;> rcases List.mem_append.mp hr with hr | hr
    · exact h.shared q hq r hr hrecord
    · rw [List.mem_singleton.mp hr] at hrecord
      exact absurd hrecord (hnew q hq)
    · rw [List.mem_singleton.mp hq] at hrecord
      exact absurd hrecord.symm (hnew r hr)
    · rw [List.mem_singleton.mp hq, List.mem_singleton.mp hr]
  about n hn := (h.about n hn).mono fun _ => List.mem_append_left _
  requested := h.requested

/-- A copy shares its record with the rule that it is a copy of, and is for the same property. -/
theorem Sound.copy (h : w.Sound) {r : Rule} (hr : r ∈ w.rules) : (w.add (pure r)).Sound := by
  have hrules : ∀ q, q ∈ w.rules ++ [r] → q ∈ w.rules := fun q hq => by
    rcases List.mem_append.mp hq with hq | hq
    · exact hq
    · rwa [List.mem_singleton.mp hq]
  exact
    { given := fun q hq => h.given q (hrules q hq)
      shared := fun q hq q' hq' => h.shared q (hrules q hq) q' (hrules q' hq')
      about := fun n hn => (h.about n hn).mono fun _ => List.mem_append_left _
      requested := h.requested }

theorem Sound.derive (h : w.Sound) (i : Nat) {f : Rule → StateM RecordSupply Rule}
    (hf : ∀ r ∈ w.rules, (w.add (f r)).Sound) : (w.derive i f).Sound := by
  rw [Session.derive]
  split
  · rename_i r hr
    exact hf r (List.mem_of_getElem? hr)
  · exact h

theorem mem_of_mem_pick {picked : List Nat} : ∀ r ∈ w.pick picked, r ∈ w.rules := by
  intro r hr
  obtain ⟨i, -, hi⟩ := List.mem_filterMap.mp hr
  exact List.mem_of_getElem? hi

theorem Sound.resolved (h : w.Sound) {kind : Kind} {s : Situation} {rules : List Rule}
    {result : Noted Style} (hrules : ∀ r ∈ rules, r ∈ w.rules)
    (hresult : result.notices = (Style.ofRules kind s rules).notices) :
    (w.resolved kind s rules result).Sound where
  given := h.given
  shared := h.shared
  about n hn := by
    rcases List.mem_append.mp hn with hn | hn
    · exact h.about n hn
    · rw [hresult] at hn
      exact (Style.about_of_mem_notices hn).mono hrules
  requested := by
    simp only [Session.resolved, hresult, Style.notices_ofRules, List.map_append, List.map_flatMap,
      Rule.map_request_notices, h.requested]

theorem Sound.perform (h : w.Sound) (job : Job) : (w.perform job).Sound := by
  cases job with
  | make property evaluator => exact h.make property evaluator
  | copy i => exact h.derive i fun r hr => h.copy hr
  | zoomRange i least greatest => exact h.derive i fun r _ => h.make r.property _
  | filtered i => exact h.derive i fun r _ => h.make r.property _
  | base kind attributes zoom picked => exact h.resolved mem_of_mem_pick rfl
  | highlight below kind s picked => exact h.resolved mem_of_mem_pick rfl

theorem sound_run (jobs : List Job) : (run jobs).Sound := by
  suffices hfold : ∀ (jobs : List Job) (w : Session), w.Sound → (jobs.foldl perform w).Sound from
    hfold jobs initial sound_initial
  intro jobs
  induction jobs with
  | nil => exact fun w h => h
  | cons job jobs ih => exact fun w h => ih (w.perform job) (h.perform job)

/-- The property of the rules with a record. -/
def owner (w : Session) (record : RecordId) : String :=
  (w.rules.find? fun r => r.record == record).elim "" Rule.property

theorem Sound.owner_eq (h : w.Sound) {r : Rule} (hr : r ∈ w.rules) : w.owner r.record = r.property := by
  rw [owner]
  cases hfind : w.rules.find? fun q => q.record == r.record with
  | none => exact absurd (List.find?_eq_none.mp hfind r hr) (by simp)
  | some q =>
    have hrecord : q.record = r.record := by simpa using List.find?_some hfind
    exact h.shared q (List.mem_of_find?_eq_some hfind) r hr hrecord

end Session

/-! ### Two journals -/

/-- Whether the record of a notice is one for its property. -/
def Notice.Owned (owner : RecordId → String) : Notice → Prop
  | .warning _ => True
  | .unmapped record property _ => owner record = property

namespace Journal

variable {j j' : Journal} {owner : RecordId → String}

/-- Two journals have printed the same. -/
structure Echoes (j j' : Journal) : Prop where
  printed : j.printed = j'.printed
  lines : j.lines = j'.lines

/-- A journal has printed the warning for whatever kind is marked in a record. -/
def Backed (owner : RecordId → String) (j : Journal) : Prop :=
  ∀ record kind, j.isMarked record kind = true →
    j.printed.contains (Warning.unmappedProperty (owner record) kind).key = true

theorem Echoes.warn (h : j.Echoes j') (w : Warning) : (j.warn w).Echoes (j'.warn w) := by
  rw [Journal.warn, Journal.warn, h.printed]
  split
  · exact h
  · exact ⟨rfl, congrArg (· ++ [w.line]) h.lines⟩

theorem Echoes.mark (h : j.Echoes j') (record : RecordId) (kind : Kind) :
    (j.mark record kind).Echoes j' := by
  rw [Journal.mark]
  split
  · exact h
  · exact ⟨h.printed, h.lines⟩

theorem Backed.warn (h : j.Backed owner) (w : Warning) : (j.warn w).Backed owner := by
  intro record kind hmarked
  rw [isMarked_warn] at hmarked
  exact contains_warn_of_contains (h record kind hmarked) w

/-- What is marked and then printed is marked and printed. -/
theorem Backed.mark_warn (h : j.Backed owner) (record : RecordId) (kind : Kind) :
    ((j.mark record kind).warn (.unmappedProperty (owner record) kind)).Backed owner := by
  intro record' kind' hmarked
  rw [isMarked_warn, isMarked_mark_iff] at hmarked
  rcases hmarked with ⟨rfl, rfl⟩ | hmarked
  · exact contains_warn _ _
  · refine contains_warn_of_contains ?_ _
    rw [printed_mark]
    exact h record' kind' hmarked

/-- What the record of a rule keeps from the journal, the journal would not print again. -/
theorem Echoes.enter (h : j.Echoes j') (hbacked : j.Backed owner) {n : Notice} (hn : n.Owned owner) :
    (j.enter n).Echoes (j'.warn n.request) ∧ (j.enter n).Backed owner := by
  cases n with
  | warning w => exact ⟨h.warn w, hbacked.warn w⟩
  | unmapped record property kind =>
    obtain rfl : owner record = property := hn
    rw [Journal.enter, Notice.request]
    split
    · rename_i hmarked
      have hprinted := hbacked record kind hmarked
      rw [h.printed] at hprinted
      rw [Journal.warn, if_pos hprinted]
      exact ⟨h, hbacked⟩
    · exact ⟨(h.mark record kind).warn _, hbacked.mark_warn record kind⟩

/-- Entering notices prints what a journal without records prints that is asked for all of them. -/
theorem Echoes.enterAll : ∀ {ns : List Notice} {j j' : Journal}, j.Echoes j' → j.Backed owner →
    (∀ n ∈ ns, n.Owned owner) → (j.enterAll ns).Echoes ((ns.map Notice.request).foldl Journal.warn j')
  | [], _, _, h, _, _ => h
  | n :: ns, _, _, h, hbacked, hns => by
    obtain ⟨hn, hrest⟩ := List.forall_mem_cons.mp hns
    obtain ⟨h, hbacked⟩ := h.enter hbacked hn
    have hall := Echoes.enterAll h hbacked hrest
    exact hall

/-! ### Distinct lines -/

theorem lines_eq_iff_keys_eq {v w : Warning} (h : v.component = w.component) :
    v.line = w.line ↔ v.key = w.key := by
  have hline : ∀ u : Warning,
      u.line = "\x1b[33m[Carto " ++ u.component ++ "] ⚠ " ++ u.message ++ "\x1b[39m\n" := fun _ => rfl
  have hkey : ∀ u : Warning, u.key = "[" ++ u.component ++ "] " ++ u.message := fun _ => rfl
  simp only [hline, hkey, h, String.append_left_inj, String.append_right_inj]

/-- A journal prints the distinct lines that it has not printed before, in order. -/
theorem lines_foldl_warn (component : String) : ∀ (ws : List Warning) (j : Journal),
    (∀ w ∈ ws, w.component = component) → (ws.foldl warn j).lines =
      j.lines ++ ((ws.filter fun w => !j.printed.contains w.key).map Warning.line).eraseDups
  | [], j, _ => by simp
  | w :: ws, j, h => by
    obtain ⟨hw, hws⟩ := List.forall_mem_cons.mp h
    rw [List.foldl_cons, lines_foldl_warn component ws (j.warn w) hws, warn]
    by_cases hprinted : j.printed.contains w.key = true
    · rw [if_pos hprinted, List.filter_cons_of_neg (by simpa using hprinted)]
    · rw [if_neg hprinted, List.filter_cons_of_pos (by simpa using hprinted), List.map_cons,
        List.eraseDups_cons, List.append_assoc, List.singleton_append]
      -- lines of one component differ exactly if the keys do that the journal keeps
      have hnew : ∀ v ∈ ws, (!(w.key :: j.printed).contains v.key) =
          (!(v.line == w.line) && !j.printed.contains v.key) := by
        intro v hv
        have hsame := lines_eq_iff_keys_eq ((hws v hv).trans hw.symm)
        rw [List.contains_cons, Bool.not_or, Bool.eq_iff_iff]
        simp [hsame]
      rw [List.filter_congr hnew, List.filter_map, List.filter_filter]
      rfl

end Journal

namespace Session

/-- Whatever is done with rules, the lines that are printed are the ones of a journal without records that
is asked for a warning at every encounter: the distinct ones, each once, in the order in which they are
first asked for. -/
theorem prints_distinct_lines (jobs : List Job) :
    let w := run jobs
    (Journal.empty.enterAll w.notices).lines = (w.requests.foldl Journal.warn .empty).lines ∧
      (w.requests.foldl Journal.warn .empty).lines = (w.requests.map Warning.line).eraseDups := by
  intro w
  have hsound : w.Sound := sound_run jobs
  rw [← hsound.requested]
  constructor
  · have hempty : Journal.empty.Backed w.owner := fun _ _ hmarked =>
      absurd hmarked (by simp [Journal.isMarked, Journal.empty])
    have howned : ∀ n ∈ w.notices, n.Owned w.owner := by
      intro n hn
      have habout := hsound.about n hn
      cases n with
      | warning v => trivial
      | unmapped record property kind =>
        obtain ⟨r, hr, rfl, rfl⟩ := habout
        exact hsound.owner_eq hr
    exact (Journal.Echoes.enterAll ⟨rfl, rfl⟩ hempty howned).lines
  · have hstyle : ∀ v ∈ w.notices.map Notice.request, v.component = "Style" := by
      intro v hv
      obtain ⟨n, hn, rfl⟩ := List.mem_map.mp hv
      have habout := hsound.about n hn
      cases n with
      | warning v => exact habout
      | unmapped record property kind => rfl
    rw [Journal.lines_foldl_warn "Style" _ .empty hstyle]
    simp [Journal.empty]

/-- A rule, a copy of it and a restricted one come up three times, twice under one record; one line is
printed. -/
example : let jobs : List Job := [.make "polygon-fill" (.constant (.text "red")), .copy 0, .filtered 0,
      .base .line .empty 3 [0, 1, 2]]
    (run jobs).requests.length = 3 ∧ (Journal.empty.enterAll (run jobs).notices).lines.length = 1 :=
  ⟨rfl, rfl⟩

end Session

end Portrayal
