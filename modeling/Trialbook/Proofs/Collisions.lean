/-
COLLISIONS: what stops an extraction.

A function is eligible (`Source.Function.Eligible`) when it is not asynchronous and its outermost decorator calls
`experiment`. A link repeats (`Link.Repeats`) when it declares again what a link above it declares. A function collides
(`Source.Function.Collides`) when it is eligible, all its decorators are links and one of these repeats, or when it would
be kept (`Source.Function.Keeps`) under the name of a function before it that would be kept.

Results:
- `Gathered.foldlM_add_eq_error_iff`: gathering links fails at the first one that repeats, before anything is checked.
- `Source.Function.verdict_eq_error_iff`: so the verdict on a function is an error just when one of its links repeats.
- `Extraction.Follows.addFunctions_error_iff`: an extraction is stopped by the first function that collides.
- `extraction_stops_iff`: nothing else stops it.
-/
import Trialbook.Proofs.Extractions

namespace Trialbook

/-! ## Links -/

namespace Link

/-- declares again what one of the links above it declares: an experiment, or a parameter of the same name -/
def Repeats (above : List Link) : Link → Prop
  | .experiment _ => ∃ d, .experiment d ∈ above
  | .param b => ∃ a, .param a ∈ above ∧ a.name = b.name

/-- the collision of a link that repeats -/
def collision (function : String) : Link → ExtractError
  | .experiment _ => .multipleExperiments function
  | .param b => .duplicateParam function b.name

end Link

namespace Gathered

/-- what is gathered declares what the links do -/
structure Holds (g : Gathered) (ls : List Link) : Prop where
  experiment : g.experiment.isSome = true ↔ ∃ d, .experiment d ∈ ls
  params : ∀ name, (∃ p ∈ g.params, p.name = name) ↔ ∃ a, .param a ∈ ls ∧ a.name = name

variable {function : String} {g g' : Gathered} {above : List Link} {l : Link} {e : ExtractError}

theorem Holds.nil : Holds ⟨none, []⟩ [] := ⟨by simp, by simp⟩

theorem Holds.add_eq_error_iff (h : g.Holds above) :
    g.add function l = .error e ↔ l.Repeats above ∧ e = l.collision function := by
  cases l with
  | experiment d =>
    simp only [Gathered.add, Link.Repeats, Link.collision, ← h.experiment]
    split_ifs with taken <;> simp [taken, eq_comm]
  | param b =>
    simp only [Gathered.add, Link.Repeats, Link.collision, ← h.params]
    split_ifs with taken
    · have again : ∃ p ∈ g.params, p.name = b.name := by simpa using taken
      rw [and_iff_right again, Except.error.injEq, eq_comm]
    · have fresh : ¬ ∃ p ∈ g.params, p.name = b.name := by simpa using taken
      refine iff_of_false ?_ fun repeats => fresh repeats.1
      intro stopped
      cases stopped

theorem Holds.add (h : g.Holds above) (added : g.add function l = .ok g') : g'.Holds (above ++ [l]) := by
  cases l with
  | experiment d =>
    simp only [Gathered.add] at added
    split_ifs at added
    cases added
    refine ⟨by simp, fun name => (h.params name).trans ?_⟩
    simp
  | param b =>
    simp only [Gathered.add] at added
    split_ifs at added
    cases added
    refine ⟨h.experiment.trans (by simp), fun name => ?_⟩
    simp only [List.mem_append, List.mem_singleton, or_and_right, exists_or, h.params name, Link.param.injEq,
      exists_eq_left]

/-- gathering fails at the first link that repeats -/
theorem foldlM_add_eq_error_iff {ls : List Link} : ls.foldlM (Gathered.add function) ⟨none, []⟩ = .error e ↔
    ∃ above l, First Link.Repeats ls above l ∧ e = l.collision function := by
  rw [← failureOf_eq_some_iff]
  refine (stops_iff (fun g ls => failureOf (ls.foldlM (Gathered.add function) g)) (fun above g => Holds g above)
    (fun above l e => l.Repeats above ∧ e = l.collision function) (fun _ _ _ => rfl) (fun above g l ls h => ?_) []
    ⟨none, []⟩ Holds.nil).trans ?_
  · rw [List.foldlM_cons]
    cases added : g.add function l with
    | error err =>
      refine .inl ⟨err, rfl, fun e' => ?_⟩
      rw [← h.add_eq_error_iff, added, Except.error.injEq]
    | ok g' =>
      refine .inr ⟨fun e' repeats => ?_, g', h.add added, rfl⟩
      rw [h.add_eq_error_iff.2 repeats] at added
      cases added
  · simp only [List.nil_append, exists_eq_right]
    refine exists₂_congr fun above l => and_congr_right fun first => ?_
    exact and_iff_right first.here

end Gathered

/-! ## Functions -/

theorem Source.Decorator.callsExperiment_iff {d : Decorator} :
    d.callsExperiment = true ↔ ∃ args, d.expr = .call (.name "experiment") args := by
  unfold callsExperiment Source.Expr.combinatorCall?
  split
  · rename_i called
    split at called
    · rename_i w args expr
      obtain ⟨c, word, same⟩ := Option.map_eq_some_iff.1 called
      cases same
      unfold Combinator.ofWord? at word
      split_ifs at word with experiment
      · simp [expr, experiment]
      · cases word
    · cases called
  · rename_i other
    refine ⟨fun h => (nomatch h), ?_⟩
    rintro ⟨args, expr⟩
    exact absurd (by rw [expr]; rfl) (other args)

namespace Source.Function

variable {f g : Function} {d : ExperimentDraft} {params : List Spec} {e : ExtractError}

/-- not asynchronous, and the outermost decorator is a call of the name `experiment` -/
def Eligible (f : Function) : Prop :=
  f.isAsync = false ∧ ∃ d rest args, f.decorators = d :: rest ∧ d.expr = .call (.name "experiment") args

/-- every decorator is a link, and these are the links in order -/
def Links (f : Function) (links : List Link) : Prop := List.Forall₂ (fun d l => d.link = .ok l) f.decorators links

/-- would be kept: eligible, the links are an experiment on top of parameters under names that differ, and the
parameters and the name pass their checks -/
def Keeps (f : Function) (d : ExperimentDraft) (params : List Spec) : Prop :=
  f.Eligible ∧ ∃ drafts : List Draft, f.Links (.experiment d :: drafts.map .param) ∧ (drafts.map Draft.name).Nodup ∧
    List.Forall₂ (fun b p => b.spec = .ok p) drafts params ∧ checkName d.name = .ok ()

theorem isDeclaration_iff : f.isDeclaration = true ↔ f.Eligible := by
  unfold isDeclaration Eligible
  cases decorators : f.decorators with
  | nil => simp
  | cons d rest => simp [Decorator.callsExperiment_iff]

instance : DecidablePred Eligible := fun f => decidable_of_iff (f.isDeclaration = true) isDeclaration_iff

theorem keeps_iff : f.Keeps d params ↔ f.verdict = .ok (.kept d params) := by
  unfold Keeps Links
  rw [verdict_eq_kept_iff]
  simp only [← mapM_eq_ok_iff]
  constructor
  · rintro ⟨⟨sync, -⟩, rest⟩
    exact ⟨sync, rest⟩
  · rintro ⟨sync, drafts, linked, rest⟩
    exact ⟨isDeclaration_iff.1 ((isDeclaration_iff_of_links linked).2 ⟨sync, d, _, rfl⟩), drafts, linked, rest⟩

/-- the verdict on a function is an error just when one of its links repeats -/
theorem verdict_eq_error_iff : f.verdict = .error e ↔
    f.Eligible ∧ ∃ links above l, f.Links links ∧ First Link.Repeats links above l ∧ e = l.collision f.name := by
  unfold verdict Links
  rw [← isDeclaration_iff]
  simp only [← mapM_eq_ok_iff]
  split_ifs with declared
  · cases linked : f.decorators.mapM Decorator.link with
    | error err => simp
    | ok links =>
      have gather : Gathered.verdict <$> links.foldlM (Gathered.add f.name) ⟨none, []⟩ = .error e ↔
          links.foldlM (Gathered.add f.name) ⟨none, []⟩ = .error e := by
        cases links.foldlM (Gathered.add f.name) ⟨none, []⟩ <;> simp [Functor.map, Except.map]
      simp only
      rw [gather, Gathered.foldlM_add_eq_error_iff]
      constructor
      · rintro ⟨above, l, first, same⟩
        exact ⟨declared, links, above, l, rfl, first, same⟩
      · rintro ⟨-, ls, above, l, own, first, same⟩
        cases own
        exact ⟨above, l, first, same⟩
  · simp [declared]

/-- what stops an extraction at a function, after those before it -/
inductive Collides (before : List Function) (f : Function) : ExtractError → Prop where
  | link {links above : List Link} {l : Link} : f.Eligible → f.Links links → First Link.Repeats links above l →
    Collides before f (l.collision f.name)
  | name {g : Function} {d d' : ExperimentDraft} {params params' : List Spec} : f.Keeps d params → g ∈ before →
    g.Keeps d' params' → d'.name = d.name → Collides before f (.duplicateExperiment d.name)

theorem collides_iff {before : List Function} : f.Collides before e ↔ f.verdict = .error e ∨
    ∃ d params, f.verdict = .ok (.kept d params) ∧ e = .duplicateExperiment d.name ∧
      ∃ g ∈ before, ∃ d' params', g.Keeps d' params' ∧ d'.name = d.name := by
  constructor
  · intro h
    cases h with
    | link eligible links first => exact .inl (verdict_eq_error_iff.2 ⟨eligible, _, _, _, links, first, rfl⟩)
    | name keeps hg keeps' same => exact .inr ⟨_, _, keeps_iff.1 keeps, rfl, _, hg, _, _, keeps', same⟩
  · rintro (stopped | ⟨d, params, kept, rfl, g, hg, d', params', keeps', same⟩)
    · obtain ⟨eligible, links, above, l, linked, first, rfl⟩ := verdict_eq_error_iff.1 stopped
      exact .link eligible linked first
    · exact .name (keeps_iff.2 kept) hg keeps' same

end Source.Function

/-! ## Extractions -/

namespace Extraction

/-- an extraction that has gone through functions, and was not stopped -/
structure Follows (x : Extraction) (before : List Source.Function) : Prop where
  clear : x.error = none
  names : ∀ name, name ∈ x.found.map Declared.name ↔ ∃ g ∈ before, ∃ d params, g.Keeps d params ∧ d.name = name

namespace Follows

variable {file : Option String} {x : Extraction} {before : List Source.Function} {f : Source.Function}
  {e : ExtractError}

theorem empty : Follows .empty [] := ⟨rfl, by simp [Extraction.empty]⟩

theorem step_error_iff (h : x.Follows before) : (x.step file f).error = some e ↔ f.Collides before e := by
  rw [Source.Function.collides_iff]
  cases x.turn file f h.clear with
  | collides verdict stopped => simp [verdict, stopped]
  | taken verdict taken stopped =>
    rw [stopped, verdict]
    constructor
    · intro same
      cases same
      exact .inr ⟨_, _, rfl, rfl, (h.names _).1 taken⟩
    · rintro (failed | ⟨d', params', same, rfl, -⟩)
      · cases failed
      · cases same
        rfl
  | found verdict fresh step =>
    rw [step, verdict]
    refine iff_of_false (fun stopped => ?_) ?_
    · rw [show Extraction.error _ = none from h.clear] at stopped
      cases stopped
    · rintro (failed | ⟨d', params', same, -, before⟩)
      · cases failed
      · cases same
        exact fresh ((h.names _).2 before)
  | passed verdict other free _ =>
    rw [free, verdict]
    refine iff_of_false nofun ?_
    rintro (failed | ⟨d, params, same, -⟩)
    · cases failed
    · exact other d params (Except.ok.inj same)

theorem step (h : x.Follows before) (free : (x.step file f).error = none) :
    (x.step file f).Follows (before ++ [f]) := by
  refine ⟨free, fun name => ?_⟩
  have split : (∃ g ∈ before ++ [f], ∃ d params, g.Keeps d params ∧ d.name = name) ↔
      name ∈ x.found.map Declared.name ∨ ∃ d params, f.Keeps d params ∧ d.name = name := by
    rw [h.names]
    simp only [List.mem_append, List.mem_singleton, or_and_right, exists_or, exists_eq_left]
  rw [split]
  simp only [Source.Function.keeps_iff]
  cases x.turn file f h.clear with
  | collides _ stopped =>
    rw [stopped] at free
    cases free
  | taken _ _ stopped =>
    rw [stopped] at free
    cases free
  | @found d params verdict _ step =>
    rw [step, verdict, List.map_append, List.mem_append]
    refine or_congr_right ⟨fun own => ⟨d, params, rfl, (List.mem_singleton.1 own).symm⟩, ?_⟩
    rintro ⟨d', params', same, rfl⟩
    cases same
    exact List.mem_singleton_self _
  | passed verdict other _ found =>
    rw [found, verdict]
    refine (or_iff_left ?_).symm
    rintro ⟨d, params, same, -⟩
    exact other d params (Except.ok.inj same)

/-- an extraction is stopped by the first function that collides -/
theorem addFunctions_error_iff {fs : List Source.Function} : (Extraction.empty.addFunctions file fs).error = some e ↔
    ∃ before f, First (fun before f => ∃ e, f.Collides before e) fs before f ∧ f.Collides before e := by
  refine stops_iff (fun x fs => (addFunctions file x fs).error) (fun before x => Follows x before)
    (fun before f e => f.Collides before e) (fun _ _ h => h.clear) (fun before x f fs h => ?_) [] .empty Follows.empty
  change (∃ e, (addFunctions file (x.step file f) fs).error = some e ∧ _) ∨ _
  cases stopped : (x.step file f).error with
  | some err =>
    refine .inl ⟨err, ?_, fun e' => ?_⟩
    · rw [addFunctions_of_error (by simp [stopped]), stopped]
    · rw [← h.step_error_iff, stopped, Option.some.injEq]
  | none =>
    refine .inr ⟨fun e' collides => ?_, x.step file f, h.step stopped, rfl⟩
    rw [h.step_error_iff.2 collides] at stopped
    cases stopped

end Follows

end Extraction

/-! ## Main result -/

/-- **Only collisions stop an extraction.** Of a text that can be read, extraction fails just when the links of some
eligible function, all of whose decorators are links, have one that repeats, or when two functions that would be kept
declare the same name. It fails with the collision of the first function that collides with those before it, which is
that of its first link that repeats, if there is one. Nothing else that may be wrong with a function is asked. -/
theorem extraction_stops_iff (text : String) (m : Source.Module) (read : Source.Module.read? text = some m) :
    ((∃ e, (Extraction.ofText text).result = .error e) ↔
      (∃ f ∈ m.functions, f.Eligible ∧ ∃ above l below, f.Links (above ++ l :: below) ∧ l.Repeats above) ∨
        ∃ before f between g after d params d' params', m.functions = before ++ f :: between ++ g :: after ∧
          f.Keeps d params ∧ g.Keeps d' params' ∧ d.name = d'.name) ∧
    ∀ e, (Extraction.ofText text).result = .error e ↔ ∃ before f,
      First (fun before f => ∃ e, f.Collides before e) m.functions before f ∧ f.Collides before e := by
  have stops (e : ExtractError) : (Extraction.ofText text).result = .error e ↔ ∃ before f,
      First (fun before f => ∃ e, f.Collides before e) m.functions before f ∧ f.Collides before e := by
    rw [Extraction.result_eq_error_iff, show Extraction.ofText text = Extraction.empty.addFunctions none m.functions from
      Extraction.addText_of_read rfl read]
    exact Extraction.Follows.addFunctions_error_iff
  refine ⟨?_, stops⟩
  simp only [stops]
  constructor
  · rintro ⟨e, before, f, first, collides⟩
    obtain ⟨after, functions⟩ := first.split
    cases collides with
    | @link links above l eligible linked repeats =>
      obtain ⟨below, rfl⟩ := repeats.split
      exact .inl ⟨f, by simp [functions], eligible, above, l, below, linked, repeats.here⟩
    | @name g d d' params params' keeps hg keeps' same =>
      obtain ⟨earlier, between, rfl⟩ := List.mem_iff_append.1 hg
      exact .inr ⟨earlier, g, between, f, after, d', params', d, params, functions, keeps', keeps, same⟩
  · have first (before : List Source.Function) (f : Source.Function) (after : List Source.Function)
        (functions : m.functions = before ++ f :: after) (collides : ∃ e, f.Collides before e) :
        ∃ e before f, First (fun before f => ∃ e, f.Collides before e) m.functions before f ∧ f.Collides before e := by
      obtain ⟨before', g, first⟩ := exists_first (P := fun before (f : Source.Function) => ∃ e, f.Collides before e)
        functions collides
      obtain ⟨e, collides'⟩ := first.here
      exact ⟨e, before', g, first, collides'⟩
    rintro (⟨f, hf, eligible, above, l, below, linked, repeats⟩ |
      ⟨before, f, between, g, after, d, params, d', params', functions, keeps, keeps', same⟩)
    · obtain ⟨before, after, functions⟩ := List.mem_iff_append.1 hf
      obtain ⟨above', k, repeats'⟩ := exists_first (P := Link.Repeats) rfl repeats
      exact first before f after functions ⟨_, .link eligible linked repeats'⟩
    · exact first (before ++ f :: between) g after functions ⟨_, .name keeps' (by simp) keeps same⟩

/-- a declaration with a decorator that is no link, and one under an invalid name that repeats an invalid parameter and
then, below that, the experiment -/
def repeatedText : String :=
  "@experiment('check')\n@cached\ndef check(b): pass\n" ++
  "@experiment('a b')\n@param('c d')\n@param('c d')\n@experiment('late')\ndef late(b): pass\n"

theorem extraction_stops_iff_repeated : ∃ m before f, Source.Module.read? repeatedText = some m ∧
    First (fun before (f : Source.Function) => ∃ e, f.Collides before e) m.functions before f ∧
    f.Collides before (.duplicateParam "late" "c d") := by
  have stopped : (Extraction.ofText repeatedText).result = .error (.duplicateParam "late" "c d") := by decide +kernel
  cases read : Source.Module.read? repeatedText with
  | none =>
    rw [Extraction.ofText, Extraction.addText, read] at stopped
    cases stopped
  | some m =>
    obtain ⟨before, f, first, collides⟩ := ((extraction_stops_iff repeatedText m read).2 _).1 stopped
    exact ⟨m, before, f, rfl, first, collides⟩

end Trialbook
