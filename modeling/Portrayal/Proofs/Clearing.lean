import Portrayal.Proofs.Announcements
import Portrayal.Proofs.Reachable

/-!
Starting over. To clear the journal makes it forget the warnings that it printed, and leaves the records
of the rules as they are. So a cleared journal goes on as an empty one that is not told of what is marked:

    rule `polygon-fill`       its record          the journal           printed
    resolved for lines        marks lines         enters the warning    a line
    the journal is cleared    has lines marked    knows no warning
    resolved again            has lines marked    is not asked          nothing
    made anew and resolved    marks lines         enters the warning    a line

Main statement: whatever was done before, of the lines that rules made anew would print after a clearing
those are missing, and only those, that are asked for by unmapped rules alone whose records had the kind
marked before.
-/

namespace Portrayal

namespace Notice

/-- What a notice has marked, if it is about an unmapped property. -/
def mark? : Notice → Option (RecordId × Kind)
  | .warning _ => none
  | .unmapped record _ kind => some (record, kind)

/-- Whether earlier notices had the same kind marked in the same record. -/
def repeats (past : List Notice) (n : Notice) : Bool :=
  n.mark?.any fun m => (past.filterMap mark?).contains m

end Notice

namespace Journal

variable {past j j' : Journal}

/-- Whether the records keep a notice from a journal. -/
def withholds (j : Journal) (n : Notice) : Bool := n.mark?.any fun (record, kind) => j.isMarked record kind

theorem enterAll_append (j : Journal) (ns ms : List Notice) :
    j.enterAll (ns ++ ms) = (j.enterAll ns).enterAll ms := List.foldl_append

theorem isMarked_enter_iff {record : RecordId} {kind : Kind} (j : Journal) (n : Notice) :
    (j.enter n).isMarked record kind = true ↔
      n.mark? = some (record, kind) ∨ j.isMarked record kind = true := by
  cases n with
  | warning w =>
    rw [enter, isMarked_warn]
    simp [Notice.mark?]
  | unmapped record' property kind' =>
    have hmark : (Notice.unmapped record' property kind').mark? = some (record, kind) ↔
        record = record' ∧ kind = kind' := by
      simp only [Notice.mark?, Option.some.injEq, Prod.mk.injEq, eq_comm]
    rw [enter, hmark]
    split
    · rename_i hmarked
      refine ⟨.inr, ?_⟩
      rintro (⟨rfl, rfl⟩ | h)
      · exact hmarked
      · exact h
    · rw [isMarked_warn, isMarked_mark_iff]

/-- Marked is what was marked before and what the notices have marked. -/
theorem isMarked_enterAll_iff (record : RecordId) (kind : Kind) : ∀ (ns : List Notice) (j : Journal),
    (j.enterAll ns).isMarked record kind = true ↔
      (record, kind) ∈ ns.filterMap Notice.mark? ∨ j.isMarked record kind = true
  | [], j => by simp [enterAll]
  | n :: ns, j => by
    have hrest := isMarked_enterAll_iff record kind ns (j.enter n)
    rw [show j.enterAll (n :: ns) = (j.enter n).enterAll ns from rfl, hrest, isMarked_enter_iff,
      List.mem_filterMap, List.mem_filterMap, List.exists_mem_cons_iff, or_left_comm, or_assoc]

/-- A journal goes on from a cleared one as another one does from an empty one: it knows the same
warnings, has printed the same since, and has all that was marked before marked besides. -/
structure Resumes (past j j' : Journal) : Prop where
  printed : j.printed = j'.printed
  lines : j.lines = past.lines ++ j'.lines
  marked : ∀ record kind, j.isMarked record kind = true ↔
    past.isMarked record kind = true ∨ j'.isMarked record kind = true

theorem resumes_clear (past : Journal) : Resumes past past.clear .empty where
  printed := rfl
  lines := (List.append_nil past.lines).symm
  marked record kind := by simp [clear, empty, isMarked]

theorem Resumes.warn (h : Resumes past j j') (w : Warning) : Resumes past (j.warn w) (j'.warn w) := by
  refine ⟨?_, ?_, fun record kind => ?_⟩
  · rw [Journal.warn, Journal.warn, h.printed]
    split
    · exact h.printed
    · rfl
  · rw [Journal.warn, Journal.warn, h.printed]
    split
    · exact h.lines
    · simp only [h.lines, List.append_assoc]
  · rw [isMarked_warn, isMarked_warn]
    exact h.marked record kind

theorem Resumes.mark (h : Resumes past j j') (record : RecordId) (kind : Kind) :
    Resumes past (j.mark record kind) (j'.mark record kind) := by
  refine ⟨?_, ?_, fun record' kind' => ?_⟩
  · rw [printed_mark, printed_mark]
    exact h.printed
  · have hlines : ∀ i : Journal, (i.mark record kind).lines = i.lines := fun i => by
      rw [Journal.mark]
      split <;> rfl
    rw [hlines, hlines]
    exact h.lines
  · rw [isMarked_mark_iff, isMarked_mark_iff, h.marked]
    tauto

/-- A notice that was withheld before is not entered; any other one is entered on both sides. -/
theorem Resumes.enter (h : Resumes past j j') (n : Notice) :
    Resumes past (j.enter n) (if past.withholds n then j' else j'.enter n) := by
  cases n with
  | warning w => exact h.warn w
  | unmapped record property kind =>
    have hmarked := h.marked record kind
    show Resumes past (j.enter (.unmapped record property kind))
      (if past.isMarked record kind = true then j' else j'.enter (.unmapped record property kind))
    rw [Journal.enter, Journal.enter]
    by_cases hpast : past.isMarked record kind = true
    · rw [if_pos hpast, if_pos (hmarked.mpr (.inl hpast))]
      exact h
    · rw [if_neg hpast]
      by_cases hsince : j'.isMarked record kind = true
      · rw [if_pos hsince, if_pos (hmarked.mpr (.inr hsince))]
        exact h
      · rw [if_neg hsince, if_neg fun hj => (hmarked.mp hj).elim hpast hsince]
        exact (h.mark record kind).warn _

theorem Resumes.enterAll : ∀ (ns : List Notice) {j j' : Journal}, Resumes past j j' →
    Resumes past (j.enterAll ns) (j'.enterAll (ns.filter fun n => !past.withholds n))
  | [], _, _, h => h
  | n :: ns, j, j', h => by
    have hrest := Resumes.enterAll ns (h.enter n)
    rw [List.filter_cons]
    cases hpast : past.withholds n with
    | true =>
      rw [hpast] at hrest
      exact hrest
    | false =>
      rw [hpast] at hrest
      exact hrest

end Journal

/-! ### Activities -/

/-- Something that is done and may be reported on: a job with rules, an operation on a sublayer, the
rendering of a binding, or a clearing of the journal. -/
inductive Activity where
  | job (job : Job)
  | operate (s : Sublayer) (op : Sublayer.Operation)
  | render (b : Binding) (pass : Pass) (order : UInt32) (features : List Feature) (list : DisplayList)
  | clear

/-- Whether rules are made, copied or restricted. -/
def Activity.builds : Activity → Bool
  | .job (.make ..) | .job (.copy _) | .job (.zoomRange ..) | .job (.filtered _) => true
  | _ => false

namespace Session

/-- The notices of a job. -/
def reports (w : Session) : Job → List Notice
  | .base kind attributes zoom picked => (Style.baseOfRules kind attributes zoom (w.pick picked)).notices
  | .highlight below kind s picked => (below.highlighted kind s (.ofRules (w.pick picked))).notices
  | _ => []

/-- The notices of an activity. -/
def hears (w : Session) : Activity → List Notice
  | .job job => w.reports job
  | .operate s op => (s.perform op).notices
  | .render b pass order features list => (b.render pass order features list).notices
  | .clear => []

/-- The session after an activity. -/
def after (w : Session) : Activity → Session
  | .job job => w.perform job
  | _ => w

/-- The notices of activities in order. -/
def heard (w : Session) : List Activity → List Notice
  | [] => []
  | a :: rest => w.hears a ++ (w.after a).heard rest

variable {w v : Session}

theorem notices_perform (w : Session) (job : Job) :
    (w.perform job).notices = w.notices ++ w.reports job := by
  have hderive : ∀ i (f : Rule → StateM RecordSupply Rule), (w.derive i f).notices = w.notices := by
    intro i f
    rw [derive]
    split <;> rfl
  cases job with
  | make property evaluator => exact (List.append_nil _).symm
  | copy i => exact (hderive i _).trans (List.append_nil _).symm
  | zoomRange i least greatest => exact (hderive i _).trans (List.append_nil _).symm
  | filtered i => exact (hderive i _).trans (List.append_nil _).symm
  | base kind attributes zoom picked => rfl
  | highlight below kind s picked => rfl

/-- What is heard of jobs is what the session has noticed since. -/
theorem notices_foldl_perform : ∀ (jobs : List Job) (w : Session),
    (jobs.foldl perform w).notices = w.notices ++ w.heard (jobs.map .job)
  | [], w => (List.append_nil w.notices).symm
  | job :: jobs, w => by
    rw [List.foldl_cons, notices_foldl_perform jobs (w.perform job), notices_perform, List.append_assoc]
    rfl

theorem Sound.foldl : ∀ (jobs : List Job) {w : Session}, w.Sound → (jobs.foldl Session.perform w).Sound
  | [], _, h => h
  | job :: jobs, _, h => Sound.foldl jobs (h.perform job)

/-- Of notices about the rules of a session an empty journal prints the distinct lines. -/
theorem Sound.lines_enterAll (h : w.Sound) {ns : List Notice} (hns : ∀ n ∈ ns, n ∈ w.notices) :
    (Journal.empty.enterAll ns).lines = (ns.map fun n => n.request.line).eraseDups := by
  have habout : ∀ n ∈ ns, n.Owned w.owner ∧ n.request.component = "Style" := by
    intro n hn
    have habout := h.about n (hns n hn)
    cases n with
    | warning v => exact ⟨trivial, habout⟩
    | unmapped record property kind =>
      obtain ⟨r, hr, rfl, rfl⟩ := habout
      exact ⟨h.owner_eq hr, rfl⟩
  have hempty : Journal.empty.Backed w.owner := fun _ _ hmarked =>
    absurd hmarked (by simp [Journal.isMarked, Journal.empty])
  have hstart : Journal.empty.Echoes .empty := ⟨rfl, rfl⟩
  have hechoes := hstart.enterAll hempty fun n hn => (habout n hn).1
  have hstyle : ∀ v ∈ ns.map Notice.request, v.component = "Style" :=
    List.forall_mem_map.mpr fun n hn => (habout n hn).2
  rw [hechoes.lines, Journal.lines_foldl_warn "Style" _ .empty hstyle]
  simp [Journal.empty, Function.comp_def]

/-- Two sessions with the same rules and the same records left. -/
structure Alike (w v : Session) : Prop where
  supply : w.supply = v.supply
  rules : w.rules = v.rules

theorem Alike.add (h : w.Alike v) (step : StateM RecordSupply Rule) : (w.add step).Alike (v.add step) := by
  rw [Session.add, Session.add, h.supply, h.rules]
  exact ⟨rfl, rfl⟩

theorem Alike.derive (h : w.Alike v) (i : Nat) (f : Rule → StateM RecordSupply Rule) :
    (w.derive i f).Alike (v.derive i f) := by
  rw [Session.derive, Session.derive, h.rules]
  split
  · exact h.add _
  · exact h

theorem Alike.perform (h : w.Alike v) (job : Job) : (w.perform job).Alike (v.perform job) := by
  cases job with
  | make property evaluator => exact h.add (Rule.make property evaluator)
  | copy i => exact h.derive i fun r => pure r
  | zoomRange i least greatest => exact h.derive i fun r => r.zoomRange least greatest
  | filtered i => exact h.derive i Rule.filtered
  | base kind attributes zoom picked => exact ⟨h.supply, h.rules⟩
  | highlight below kind s picked => exact ⟨h.supply, h.rules⟩

theorem Alike.reports (h : w.Alike v) (job : Job) : w.reports job = v.reports job := by
  cases job <;> simp only [Session.reports, pick, h.rules]

theorem Alike.heard : ∀ (jobs : List Job) {w v : Session}, w.Alike v →
    w.heard (jobs.map .job) = v.heard (jobs.map .job)
  | [], _, _, _ => rfl
  | job :: jobs, _, _, h => congrArg₂ (· ++ ·) (h.reports job) (Alike.heard jobs (h.perform job))

end Session

/-! ### Workshops -/

/-- The rules that there are, with what came of them, and the journal of what is reported. -/
structure Workshop where
  session : Session
  journal : Journal

namespace Workshop

/-- No rules yet, and nothing reported. -/
def empty : Workshop := ⟨.initial, .empty⟩

/-- The workshop after an activity. -/
def act (w : Workshop) (a : Activity) : Workshop where
  session := w.session.after a
  journal :=
    match a with
    | .clear => w.journal.clear
    | a => w.journal.enterAll (w.session.hears a)

/-- The workshop after activities in order. -/
def run (w : Workshop) (activities : List Activity) : Workshop := activities.foldl act w

variable {w : Workshop}

theorem run_cons (w : Workshop) (a : Activity) (rest : List Activity) :
    w.run (a :: rest) = (w.act a).run rest := rfl

theorem run_append (w : Workshop) (before after : List Activity) :
    w.run (before ++ after) = (w.run before).run after := List.foldl_append

theorem sound_run : ∀ (activities : List Activity) {w : Workshop}, w.session.Sound →
    (w.run activities).session.Sound
  | [], _, h => h
  | a :: rest, w, h => by
    have hafter : (w.act a).session.Sound := by
      cases a with
      | job job => exact h.perform job
      | _ => exact h
    exact sound_run rest hafter

theorem isMarked_act_iff {record : RecordId} {kind : Kind} (w : Workshop) (a : Activity) :
    (w.act a).journal.isMarked record kind = true ↔
      (record, kind) ∈ (w.session.hears a).filterMap Notice.mark? ∨
        w.journal.isMarked record kind = true := by
  cases a with
  | clear => exact (or_iff_right (List.not_mem_nil)).symm
  | _ => exact Journal.isMarked_enterAll_iff _ _ _ _

/-- Marked is what was marked before and what came up since, whatever clearings there were. -/
theorem isMarked_run_iff (record : RecordId) (kind : Kind) : ∀ (activities : List Activity)
    (w : Workshop), (w.run activities).journal.isMarked record kind = true ↔
      (record, kind) ∈ (w.session.heard activities).filterMap Notice.mark? ∨
        w.journal.isMarked record kind = true
  | [], w => (or_iff_right List.not_mem_nil).symm
  | a :: rest, w => by
    rw [run_cons, isMarked_run_iff record kind rest (w.act a), isMarked_act_iff,
      show w.session.heard (a :: rest) = w.session.hears a ++ (w.session.after a).heard rest from rfl,
      List.filterMap_append, List.mem_append]
    tauto

theorem journal_run_jobs : ∀ (jobs : List Job) (w : Workshop),
    (w.run (jobs.map .job)).journal = w.journal.enterAll (w.session.heard (jobs.map .job))
  | [], _ => rfl
  | job :: jobs, w => by
    rw [List.map_cons, run_cons, journal_run_jobs jobs (w.act (.job job))]
    exact (Journal.enterAll_append _ _ _).symm

/-- To make, copy and restrict the rules alone gives the same rules as all that was done, and leaves the
journal as it was. -/
theorem run_builds : ∀ (activities : List Activity) {w v : Workshop}, w.session.Alike v.session →
    (w.run activities).session.Alike (v.run (activities.filter Activity.builds)).session ∧
      (v.run (activities.filter Activity.builds)).journal = v.journal
  | [], _, _, h => ⟨h, rfl⟩
  | a :: rest, w, v, h => by
    cases hbuilds : a.builds with
    | true =>
      rw [List.filter_cons_of_pos hbuilds]
      have hstep : (w.act a).session.Alike (v.act a).session ∧ (v.act a).journal = v.journal := by
        cases a with
        | job job =>
          refine ⟨h.perform job, ?_⟩
          cases job with
          | base | highlight => exact absurd hbuilds Bool.false_ne_true
          | _ => rfl
        | _ => exact absurd hbuilds Bool.false_ne_true
      obtain ⟨hsession, hjournal⟩ := run_builds rest hstep.1
      exact ⟨hsession, hjournal.trans hstep.2⟩
    | false =>
      rw [List.filter_cons_of_neg (by rw [hbuilds]; exact Bool.false_ne_true)]
      have hstep : (w.act a).session.Alike v.session := by
        cases a with
        | job job =>
          cases job with
          | base | highlight => exact ⟨h.supply, h.rules⟩
          | _ => exact absurd hbuilds.symm Bool.false_ne_true
        | _ => exact h
      exact run_builds rest hstep

/-- The records keep from the journal what repeats something that was heard, before and after clearings. -/
theorem withholds_run (history : List Activity) (n : Notice) :
    (empty.run history).journal.withholds n = n.repeats (Session.initial.heard history) := by
  cases n with
  | warning v => rfl
  | unmapped record property kind =>
    have hfresh : ¬ empty.journal.isMarked record kind = true := by
      simp [empty, Journal.empty, Journal.isMarked]
    have hmarked := (isMarked_run_iff record kind history empty).trans (or_iff_left hfresh)
    rw [Bool.eq_iff_iff]
    exact hmarked.trans List.contains_iff_mem.symm

/-- After any history the journal is cleared, and then some of the rules are resolved further. What is
printed then is the distinct lines that are asked for, except for the unmapped rules whose records had the
kind marked in the history. Rules made anew in the same way, with an empty journal, print the distinct
lines of all that is asked for. So a line of theirs is missing exactly if all that asks for it repeats what
was marked. -/
theorem prints_after_clear (history : List Activity) (further : List Job) :
    let past := empty.run history
    let encounters := past.session.heard (further.map .job)
    let anew := encounters.filter fun n => !n.repeats (Session.initial.heard history)
    let printed (ns : List Notice) := (ns.map fun n => n.request.line).eraseDups
    (empty.run (history ++ .clear :: further.map .job)).journal.lines =
        past.journal.lines ++ printed anew ∧
      (empty.run (history.filter Activity.builds ++ further.map .job)).journal.lines =
        printed encounters ∧
      ∀ line ∈ printed encounters, line ∉ printed anew ↔
        ∀ n ∈ encounters, n.request.line = line → n.repeats (Session.initial.heard history) = true := by
  intro past encounters anew printed
  have hsound : past.session.Sound := sound_run history Session.sound_initial
  have hdone := hsound.foldl further
  have hnoticed : ∀ n ∈ encounters, n ∈ (further.foldl Session.perform past.session).notices := by
    intro n hn
    rw [Session.notices_foldl_perform]
    exact List.mem_append_right _ hn
  refine ⟨?_, ?_, fun line _ => ?_⟩
  · have hwithheld : anew = encounters.filter fun n => !past.journal.withholds n :=
      List.filter_congr fun n _ => congrArg (!·) (withholds_run history n).symm
    have hresumes := (Journal.resumes_clear past.journal).enterAll encounters
    rw [run_append, run_cons, journal_run_jobs, show printed anew = (Journal.empty.enterAll anew).lines
      from (hdone.lines_enterAll fun n hn => hnoticed n (List.mem_of_mem_filter hn)).symm, hwithheld]
    exact hresumes.lines
  · obtain ⟨hsession, hjournal⟩ := run_builds history (w := empty) (v := empty) ⟨rfl, rfl⟩
    rw [run_append, journal_run_jobs, hjournal, ← hsession.heard further]
    exact hdone.lines_enterAll hnoticed
  · simp only [printed, anew, List.mem_eraseDups, List.mem_map, List.mem_filter, not_exists, not_and,
      Bool.not_eq_true', and_imp]
    exact ⟨fun h n hn hline => by
        by_contra hrepeats
        exact h n hn (by simpa using hrepeats) hline,
      fun h n hn hrepeats hline => by
        rw [h n hn hline] at hrepeats
        exact Bool.noConfusion hrepeats⟩

/-- A rule whose property lines do not know is resolved for lines, the journal is cleared, and the rule
is resolved again: nothing more is printed. A size that is no number is warned of again. -/
example :
    let history (property : String) (kind : Kind) : List Activity :=
      [.job (.make property (.constant (.text "red"))), .job (.base kind .empty 3 [0]), .clear,
        .job (.base kind .empty 3 [0])]
    (empty.run (history "polygon-fill" .line)).journal.lines.length = 1 ∧
      (empty.run (history "text-size" .text)).journal.lines.length = 2 := ⟨rfl, rfl⟩

end Workshop

end Portrayal
