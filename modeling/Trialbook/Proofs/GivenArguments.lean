/-
GIVEN ARGUMENTS: how the arguments of a call to a combinator are read.

A call gives keywords values: one value may stand first and alone, and is that of the name (`Source.Lists`). The call is
in order when each keyword is one that the combinator takes, is given once, and has a literal for its value (`Gives`).
Then all that matters is which keyword is given which literal (`KeywordMap`), a literal that is nothing counting as
none, and `Builds` says which link a map makes.

Results:
- `Given.foldlM_add_eq_ok_iff`: which arguments are gone through, and what has been gathered from them then.
- `Given.link_eq_ok_iff`: a link is made of what was gathered just when its map makes it.
- `Given.read_link_eq_ok_iff`: a link is read from arguments just when they are in order and their map makes it.
-/
import Trialbook.Proofs.Tables
import Trialbook.Proofs.Verdicts

namespace Trialbook

/-! ## Keywords given -/

namespace Source

/-- the argument that gives a keyword a value -/
def Argument.ofPair {ε : Type} (k : String × ε) : Argument ε := .keyword k.1 k.2

/-- the keywords that arguments give values: one value may stand first, without its keyword, and is the name -/
inductive Lists : List (Argument Expr) → List (String × Expr) → Prop where
  | keywords (ks : List (String × Expr)) : Lists (ks.map .ofPair) ks
  | name (value : Expr) (text : String) (ks : List (String × Expr)) :
    Lists (.positional value text :: ks.map .ofPair) (("name", value) :: ks)

end Source

open Source

/-- arguments of a call that are in order, and the keywords that they give values -/
structure Gives (c : Combinator) (args : Option (List (Argument Expr))) (given : List (String × Expr)) : Prop where
  listed : ∃ plain, args = some plain ∧ Lists plain given
  once : (given.map Prod.fst).Nodup
  allowed : ∀ k ∈ given, k.1 ∈ c.keywords
  literal : ∀ k ∈ given, k.2.literal? ≠ none

/-- the literals that keywords are given -/
abbrev KeywordMap := String → Option Literal

namespace KeywordMap

/-- the literals that the values of keywords denote -/
def of (given : List (String × Expr)) : KeywordMap := fun key => (given.lookup key).bind Expr.literal?

/-- what a keyword states: being given nothing is not being given -/
def stated (m : KeywordMap) (key : String) : Option Literal := (m key).filter fun l => l ≠ .scalar .absent

end KeywordMap

/-! ## Links made -/

/-- what a keyword takes, nothing apart -/
inductive Takes : String → Literal → Prop where
  | seed (i : Int64) : Takes "seed" (.scalar (.value (.int i)))
  | default (v : Value) : Takes "default" (.scalar (.value v))
  | description (s : String) : Takes "description" (.scalar (.value (.str s)))
  | required (b : Bool) : Takes "required" (.scalar (.value (.bool b)))
  | type (k : Kind) : Takes "type" (.kind k)
  | options (vs : List Value) : Takes "options" (.sequence (vs.map .value))

/-- the link that a map makes for a combinator -/
inductive Builds (m : KeywordMap) : Combinator → Link → Prop where
  | experiment {d : ExperimentDraft} : m.stated "name" = some (.scalar (.value (.str d.name))) →
    m.stated "seed" = d.seed.map (fun i => .scalar (.value (.int i))) → Builds m .experiment (.experiment d)
  /-- a parameter is not required unless that is stated -/
  | param {d : Draft} : m.stated "name" = some (.scalar (.value (.str d.name))) →
    m.stated "default" = d.default.map (fun v => .scalar (.value v)) →
    m.stated "description" = d.description.map (fun s => .scalar (.value (.str s))) →
    (m.stated "required").getD (.scalar (.value (.bool false))) = .scalar (.value (.bool d.required)) →
    m.stated "type" = d.kind.map .kind →
    m.stated "options" = d.options.map (fun vs => .sequence (vs.map .value)) → Builds m .param (.param d)

namespace Given

theorem map_eq_ok_iff {ε α β : Type} {f : α → β} {x : Except ε α} {b : β} :
    f <$> x = .ok b ↔ ∃ a, x = .ok a ∧ f a = b := by
  cases x <;> simp [Functor.map, Except.map]

variable {g g' : Given} {c : Combinator}

/-! ## Reading arguments -/

/-- a keyword and the literal that its value denotes -/
def Evaluates (k : String × Expr) (l : String × Literal) : Prop := k.1 = l.1 ∧ k.2.literal? = some l.2

theorem add_keyword_eq_ok_iff {key : String} {value : Expr} : g.add (.keyword key value) = .ok g' ↔
    key ∉ g.keywords.map Prod.fst ∧ ∃ l, value.literal? = some l ∧
      { g with keywords := g.keywords ++ [(key, l)] } = g' := by
  have taken : (g.keywords.any fun kv => kv.1 == key) = true ↔ key ∈ g.keywords.map Prod.fst := by simp
  rw [add, ite_congr (propext taken) (fun _ => rfl) (fun _ => rfl)]
  split_ifs with again
  · simp [again]
  · cases value.literal? with
    | none => simp
    | some l => simp [again]

theorem add_positional_eq_ok_iff {value : Expr} {text : String} : g.add (.positional value text) = .ok g' ↔
    g.keywords = [] ∧ ∃ l, value.literal? = some l ∧ { g with positional := g.positional ++ [l] } = g' := by
  rw [add]
  cases keywords : g.keywords with
  | cons => simp
  | nil => cases value.literal? <;> simp

/-- arguments are gone through when values without keyword come first and no keyword is new twice -/
theorem foldlM_add_eq_ok_iff {args : List (Argument Expr)} : args.foldlM add g = .ok g' ↔
    ∃ (first : List (Expr × String)) (ks : List (String × Expr)) (ls : List Literal) (ms : List (String × Literal)),
      args = first.map (fun p => .positional p.1 p.2) ++ ks.map .ofPair ∧ (first = [] ∨ g.keywords = []) ∧
        (ks.map Prod.fst).Nodup ∧ (∀ k ∈ ks, k.1 ∉ g.keywords.map Prod.fst) ∧
        List.Forall₂ (fun p l => p.1.literal? = some l) first ls ∧ List.Forall₂ Evaluates ks ms ∧
        ⟨g.positional ++ ls, g.keywords ++ ms⟩ = g' := by
  induction args generalizing g with
  | nil =>
    constructor
    · intro h
      exact ⟨[], [], [], [], rfl, .inl rfl, .nil, nofun, .nil, .nil, by simpa using Except.ok.inj h⟩
    · rintro ⟨first, ks, ls, ms, none, -, -, -, values, pairs, rfl⟩
      obtain ⟨noFirst, noKs⟩ := List.append_eq_nil_iff.1 none.symm
      obtain rfl := List.map_eq_nil_iff.1 noFirst
      obtain rfl := List.map_eq_nil_iff.1 noKs
      cases values
      cases pairs
      simp [pure, Except.pure]
  | cons a args ih =>
    rw [List.foldlM_cons, bind_eq_ok_iff]
    cases a with
    | spread =>
      refine iff_of_false (fun ⟨_, added, _⟩ => by cases added) ?_
      rintro ⟨first, ks, -, -, split, -⟩
      cases first with
      | cons => cases split
      | nil => cases ks <;> cases split
    | keyword key value =>
      simp only [add_keyword_eq_ok_iff, ih]
      constructor
      · rintro ⟨_, ⟨new, l, value, rfl⟩, first, ks, ls, ms, rfl, order, once, fresh, values, pairs, rfl⟩
        obtain rfl : first = [] := order.resolve_right (by simp)
        cases values
        have others : ∀ k ∈ ks, k.1 ∉ g.keywords.map Prod.fst ∧ k.1 ≠ key := by simpa [not_or] using fresh
        refine ⟨[], (key, _) :: ks, [], (key, l) :: ms, rfl, .inl rfl, ?_, ?_, .nil, .cons ⟨rfl, value⟩ pairs,
          by simp⟩
        · refine List.nodup_cons.2 ⟨fun mem => ?_, once⟩
          obtain ⟨k, hk, same⟩ := List.mem_map.1 mem
          exact (others k hk).2 same
        · exact List.forall_mem_cons.2 ⟨new, fun k hk => (others k hk).1⟩
      · rintro ⟨first, ks, ls, ms, split, -, once, fresh, values, pairs, rfl⟩
        cases first with
        | cons => cases split
        | nil =>
          cases values
          cases ks with
          | nil => cases split
          | cons k ks =>
            cases split
            obtain ⟨⟨key', l⟩, ms, ⟨same, value⟩, rest, rfl⟩ := List.forall₂_cons_left_iff.1 pairs
            obtain rfl : k.1 = key' := same
            obtain ⟨new, once⟩ := List.nodup_cons.1 once
            obtain ⟨here, fresh⟩ := List.forall_mem_cons.1 fresh
            refine ⟨_, ⟨here, l, value, rfl⟩, [], ks, [], ms, rfl, .inl rfl, once, fun k' hk' => ?_, .nil, rest,
              by simp⟩
            have other : k'.1 ≠ k.1 := fun same => new (same ▸ List.mem_map_of_mem hk')
            simpa [not_or, other] using fresh k' hk'
    | positional value text =>
      simp only [add_positional_eq_ok_iff, ih]
      constructor
      · rintro ⟨_, ⟨start, l, value, rfl⟩, first, ks, ls, ms, rfl, order, once, fresh, values, pairs, rfl⟩
        exact ⟨(_, text) :: first, ks, l :: ls, ms, rfl, .inr start, once, fresh, .cons value values, pairs, by simp⟩
      · rintro ⟨first, ks, ls, ms, split, order, once, fresh, values, pairs, rfl⟩
        cases first with
        | nil => cases ks <;> cases split
        | cons p first =>
          cases split
          obtain ⟨l, ls, value, rest, rfl⟩ := List.forall₂_cons_left_iff.1 values
          have start : g.keywords = [] := order.resolve_left (List.cons_ne_nil p first)
          exact ⟨_, ⟨start, l, value, rfl⟩, first, ks, ls, ms, rfl, .inr start, once, fresh, rest, pairs, by simp⟩

/-- the keywords given, the name among them if it stands alone -/
def pairs (g : Given) : List (String × Literal) := g.positional.map (("name", ·)) ++ g.keywords

theorem read_eq_ok_iff {args : List (Argument Expr)} : read c args = .ok g ↔
    args.foldlM add ⟨[], []⟩ = .ok g ∧ g.positional.length ≤ 1 ∧ ∀ k ∈ g.keywords, k.1 ∈ c.keywords := by
  have known : (∀ k ∈ g.keywords, k.1 ∈ c.keywords) ↔
      (g.keywords.find? fun kv => !c.keywords.contains kv.1) = none := by simp
  rw [known, read, bind_eq_ok_iff]
  constructor
  · rintro ⟨g', gathered, h⟩
    split_ifs at h with several
    · cases h
    cases foreign : g'.keywords.find? fun kv => !c.keywords.contains kv.1 with
    | some k =>
      rw [foreign] at h
      cases h
    | none =>
      rw [foreign] at h
      cases h
      exact ⟨gathered, Nat.le_of_not_lt several, foreign⟩
  · rintro ⟨gathered, few, foreign⟩
    refine ⟨g, gathered, ?_⟩
    rw [if_neg (Nat.not_lt_of_le few), foreign]
    rfl

/-! ## Reading keywords -/

theorem lookup_pairs {key : String} (other : key ≠ "name") : g.pairs.lookup key = g.keywords.lookup key := by
  have none : (g.positional.map (("name", ·))).lookup key = none :=
    List.lookup_eq_none_iff.2 fun p hp => by
      obtain ⟨l, -, rfl⟩ := List.mem_map.1 hp
      simpa using other
  rw [pairs, List.lookup_append, none, Option.none_or]

/-- the literals that keywords were given -/
def map (g : Given) : KeywordMap := fun key => g.pairs.lookup key

theorem value?_eq {key : String} (other : key ≠ "name") : g.value? key = g.map.stated key := by
  rw [value?, KeywordMap.stated, map, lookup_pairs other]
  cases g.keywords.lookup key with
  | none => rfl
  | some l =>
    by_cases nothing : l = .scalar .absent
    · subst nothing
      rfl
    · rw [Option.filter_some_pos (by simpa using nothing)]
      split
      · rename_i same
        exact absurd (Option.some.inj same) nothing
      · rfl

/-- a keyword is read when it is not given, or is given what it takes -/
theorem eq_ok_iff_of_takes {α : Type} {takes : α → Literal} {x : Option Literal} {r : Except LinkFault (Option α)}
    {y : Option α} (none : x = none → r = .ok none) (some : ∀ a, x = some (takes a) → r = .ok (some a))
    (wrong : ∀ l, x = .some l → (∀ a, l ≠ takes a) → ∃ e, r = .error e) : r = .ok y ↔ x = y.map takes := by
  constructor
  · rintro read
    cases given : x with
    | none =>
      obtain rfl := Except.ok.inj ((none given).symm.trans read)
      rfl
    | some l =>
      by_cases fits : ∃ a, l = takes a
      · obtain ⟨a, rfl⟩ := fits
        obtain rfl := Except.ok.inj ((some a given).symm.trans read)
        rfl
      · obtain ⟨e, refused⟩ := wrong l given (not_exists.1 fits)
        rw [refused] at read
        cases read
  · intro given
    cases y with
    | none => exact none given
    | some a => exact some a given

theorem seed_eq_ok_iff {seed : Option Int64} :
    g.seed = .ok seed ↔ g.map.stated "seed" = seed.map fun i => .scalar (.value (.int i)) := by
  rw [← value?_eq (by decide), Given.seed]
  refine eq_ok_iff_of_takes (fun given => by rw [given]) (fun i given => by rw [given]) fun l given other => ?_
  rw [given]
  split
  · rename_i none
    cases none
  · rename_i i same
    exact absurd (Option.some.inj same) (other i)
  · exact ⟨_, rfl⟩

theorem default_eq_ok_iff {default : Option Value} :
    g.default = .ok default ↔ g.map.stated "default" = default.map fun v => .scalar (.value v) := by
  rw [← value?_eq (by decide), Given.default]
  refine eq_ok_iff_of_takes (fun given => by rw [given]) (fun v given => by rw [given]) fun l given other => ?_
  rw [given]
  split
  · rename_i none
    cases none
  · rename_i v same
    exact absurd (Option.some.inj same) (other v)
  · exact ⟨_, rfl⟩

theorem description_eq_ok_iff {description : Option String} : g.description = .ok description ↔
    g.map.stated "description" = description.map fun s => .scalar (.value (.str s)) := by
  rw [← value?_eq (by decide), Given.description]
  refine eq_ok_iff_of_takes (fun given => by rw [given]) (fun s given => by rw [given]) fun l given other => ?_
  rw [given]
  split
  · rename_i none
    cases none
  · rename_i s same
    exact absurd (Option.some.inj same) (other s)
  · exact ⟨_, rfl⟩

theorem kind_eq_ok_iff {kind : Option Kind} : g.kind = .ok kind ↔ g.map.stated "type" = kind.map .kind := by
  rw [← value?_eq (by decide), Given.kind]
  refine eq_ok_iff_of_takes (fun given => by rw [given]) (fun k given => by rw [given]) fun l given other => ?_
  rw [given]
  split
  · rename_i none
    cases none
  · rename_i k same
    exact absurd (Option.some.inj same) (other k)
  · exact ⟨_, rfl⟩

theorem option_eq_ok_iff {s : Scalar} {v : Value} : option s = .ok v ↔ s = .value v := by
  cases s with
  | value w => simp [option]
  | absent => exact iff_of_false (fun refused => nomatch refused) (fun same => nomatch same)

theorem options_eq_ok_iff {options : Option (List Value)} : g.options = .ok options ↔
    g.map.stated "options" = options.map fun vs => .sequence (vs.map .value) := by
  have items {ss : List Scalar} {vs : List Value} : ss.mapM option = .ok vs ↔ ss = vs.map .value := by
    rw [mapM_eq_ok_iff]
    simp only [option_eq_ok_iff]
    rw [← List.forall₂_map_right_iff, List.forall₂_eq_eq_eq]
  rw [← value?_eq (by decide), Given.options]
  refine eq_ok_iff_of_takes (fun given => by rw [given]) (fun vs given => ?_) fun l given other => ?_
  · rw [given]
    change (do return some (← (vs.map Scalar.value).mapM option)) = _
    rw [items.2 rfl]
    rfl
  · rw [given]
    split
    · rename_i none
      cases none
    · rename_i ss same
      obtain rfl := Option.some.inj same
      cases read : ss.mapM option with
      | error e => exact ⟨e, rfl⟩
      | ok vs => exact absurd (items.1 read ▸ rfl) (other vs)
    · exact ⟨_, rfl⟩

theorem required_eq_ok_iff {required : Bool} : g.required = .ok required ↔
    (g.map.stated "required").getD (.scalar (.value (.bool false))) = .scalar (.value (.bool required)) := by
  rw [← value?_eq (by decide), Given.required]
  cases given : g.value? "required" with
  | none => simp
  | some l =>
    rw [Option.getD_some]
    split
    · rename_i none
      cases none
    · rename_i b same
      obtain rfl := Option.some.inj same
      simp
    · rename_i other same
      obtain rfl := Option.some.inj same
      exact iff_of_false (fun refused => nomatch refused) (other required)

/-- the text that a name must be -/
def nameOf : Literal → Except LinkFault String
  | .scalar (.value (.str s)) => return s
  | l => wrong "name" "a str" l

theorem nameOf_eq_ok_iff {l : Literal} {name : String} : nameOf l = .ok name ↔
    (some l).filter (fun l => l ≠ .scalar .absent) = some (.scalar (.value (.str name))) := by
  unfold nameOf
  split
  · rename_i s
    rw [Option.filter_some_pos (by simp)]
    simp [pure, Except.pure]
  · rename_i other
    refine iff_of_false (fun refused => nomatch refused) fun given => ?_
    exact other name (Option.some.inj (Option.filter_eq_some_iff.1 given).1)

/-- the name is read when it is given just once -/
theorem name_eq_ok_iff {name : String} (few : g.positional.length ≤ 1) (once : (g.keywords.map Prod.fst).Nodup) :
    g.name c = .ok name ↔
      (g.pairs.map Prod.fst).Nodup ∧ g.map.stated "name" = some (.scalar (.value (.str name))) := by
  obtain ⟨positional, keywords⟩ := g
  simp only [Given.name, KeywordMap.stated, map, pairs]
  match positional, few with
  | [], _ =>
    rw [List.map_nil, List.nil_append, and_iff_right once]
    cases keywords.lookup "name" with
    | none => exact iff_of_false (fun refused => nomatch refused) (fun none => nomatch none)
    | some l => exact nameOf_eq_ok_iff
  | [l], _ =>
    have first : (([l].map (("name", ·)) ++ keywords).lookup "name") = some l := by simp
    rw [first]
    cases again : keywords.lookup "name" with
    | none =>
      have fresh : "name" ∉ keywords.map Prod.fst := fun mem => by
        obtain ⟨k, hk, same⟩ := List.mem_map.1 mem
        simpa [same] using List.lookup_eq_none_iff.1 again k hk
      refine nameOf_eq_ok_iff.trans (iff_and_self.2 fun _ => ?_)
      exact List.nodup_cons.2 ⟨fresh, once⟩
    | some l' =>
      refine iff_of_false (fun refused => nomatch refused) fun ⟨distinct, _⟩ => ?_
      exact (List.nodup_cons.1 distinct).1 (List.mem_map.2 ⟨_, (Table.lookup_eq_some_iff_mem once).1 again, rfl⟩)

theorem link_eq_ok_iff {l : Link} (few : g.positional.length ≤ 1) (once : (g.keywords.map Prod.fst).Nodup) :
    g.link c = .ok l ↔ (g.pairs.map Prod.fst).Nodup ∧ Builds g.map c l := by
  cases c with
  | experiment =>
    constructor
    · intro read
      obtain ⟨d, draft, rfl⟩ := map_eq_ok_iff.1 read
      obtain ⟨name, named, rest⟩ := bind_eq_ok_iff.1 draft
      obtain ⟨seed, seeded, rest⟩ := bind_eq_ok_iff.1 rest
      cases rest
      obtain ⟨distinct, named⟩ := (name_eq_ok_iff few once).1 named
      exact ⟨distinct, .experiment named (seed_eq_ok_iff.1 seeded)⟩
    · rintro ⟨distinct, made⟩
      cases made with
      | experiment named seeded =>
        refine map_eq_ok_iff.2 ⟨_, ?_, rfl⟩
        refine bind_eq_ok_iff.2 ⟨_, (name_eq_ok_iff few once).2 ⟨distinct, named⟩, ?_⟩
        exact bind_eq_ok_iff.2 ⟨_, seed_eq_ok_iff.2 seeded, rfl⟩
  | param =>
    constructor
    · intro read
      obtain ⟨d, draft, rfl⟩ := map_eq_ok_iff.1 read
      obtain ⟨name, named, rest⟩ := bind_eq_ok_iff.1 draft
      obtain ⟨default, stated, rest⟩ := bind_eq_ok_iff.1 rest
      obtain ⟨description, described, rest⟩ := bind_eq_ok_iff.1 rest
      obtain ⟨required, demanded, rest⟩ := bind_eq_ok_iff.1 rest
      obtain ⟨kind, typed, rest⟩ := bind_eq_ok_iff.1 rest
      obtain ⟨options, offered, rest⟩ := bind_eq_ok_iff.1 rest
      cases rest
      obtain ⟨distinct, named⟩ := (name_eq_ok_iff few once).1 named
      exact ⟨distinct, .param named (default_eq_ok_iff.1 stated) (description_eq_ok_iff.1 described)
        (required_eq_ok_iff.1 demanded) (kind_eq_ok_iff.1 typed) (options_eq_ok_iff.1 offered)⟩
    · rintro ⟨distinct, made⟩
      cases made with
      | param named stated described demanded typed offered =>
        refine map_eq_ok_iff.2 ⟨_, ?_, rfl⟩
        refine bind_eq_ok_iff.2 ⟨_, (name_eq_ok_iff few once).2 ⟨distinct, named⟩, ?_⟩
        refine bind_eq_ok_iff.2 ⟨_, default_eq_ok_iff.2 stated, ?_⟩
        refine bind_eq_ok_iff.2 ⟨_, description_eq_ok_iff.2 described, ?_⟩
        refine bind_eq_ok_iff.2 ⟨_, required_eq_ok_iff.2 demanded, ?_⟩
        refine bind_eq_ok_iff.2 ⟨_, kind_eq_ok_iff.2 typed, ?_⟩
        exact bind_eq_ok_iff.2 ⟨_, options_eq_ok_iff.2 offered, rfl⟩

/-! ## Arguments in order -/

theorem lookup_of_evaluates {given : List (String × Expr)} {ms : List (String × Literal)}
    (values : List.Forall₂ Evaluates given ms) (key : String) : ms.lookup key = KeywordMap.of given key := by
  rw [KeywordMap.of]
  induction values with
  | nil => rfl
  | @cons k m given ms here _ ih =>
    obtain ⟨same, value⟩ := here
    rw [List.lookup_cons, List.lookup_cons, same]
    cases key == m.1 with
    | true => exact value.symm
    | false => exact ih

theorem keys_of_evaluates {given : List (String × Expr)} {ms : List (String × Literal)}
    (values : List.Forall₂ Evaluates given ms) : given.map Prod.fst = ms.map Prod.fst := by
  rw [← List.forall₂_eq_eq_eq, List.forall₂_map_left_iff, List.forall₂_map_right_iff]
  exact values.imp fun _ _ here => here.1

/-- values that denote literals, each under its keyword -/
theorem exists_evaluates {given : List (String × Expr)} (literal : ∀ k ∈ given, k.2.literal? ≠ none) :
    ∃ ms, List.Forall₂ Evaluates given ms := by
  induction given with
  | nil => exact ⟨[], .nil⟩
  | cons k given ih =>
    obtain ⟨here, rest⟩ := List.forall_mem_cons.1 literal
    obtain ⟨l, value⟩ := Option.ne_none_iff_exists'.1 here
    obtain ⟨ms, values⟩ := ih rest
    exact ⟨(k.1, l) :: ms, .cons ⟨rfl, value⟩ values⟩

/-- arguments that are read are in order, but for a name that may be given twice -/
theorem exists_gives_of_read {args : List (Argument Expr)} (read : read c args = .ok g)
    (distinct : (g.pairs.map Prod.fst).Nodup) :
    ∃ given, Gives c (some args) given ∧ List.Forall₂ Evaluates given g.pairs := by
  obtain ⟨gathered, few, known⟩ := read_eq_ok_iff.1 read
  obtain ⟨first, ks, ls, ms, rfl, -, -, -, values, pairs, rfl⟩ := foldlM_add_eq_ok_iff.1 gathered
  suffices listed : ∃ given, Lists (first.map (fun p => .positional p.1 p.2) ++ ks.map .ofPair) given ∧
      List.Forall₂ Evaluates given (Given.pairs ⟨[] ++ ls, [] ++ ms⟩) by
    obtain ⟨given, lists, evaluated⟩ := listed
    refine ⟨given, ⟨⟨_, rfl, lists⟩, keys_of_evaluates evaluated ▸ distinct, fun k hk => ?_, fun k hk => ?_⟩, evaluated⟩
    · obtain ⟨m, hm, same, -⟩ := exists_mem_of_forall₂ evaluated.flip hk
      rw [same]
      rcases List.mem_append.1 hm with alone | keyword
      · obtain ⟨l, -, rfl⟩ := List.mem_map.1 alone
        change "name" ∈ c.keywords
        cases c <;> decide
      · exact known m keyword
    · obtain ⟨m, -, -, value⟩ := exists_mem_of_forall₂ evaluated.flip hk
      exact value ▸ Option.some_ne_none _
  match first, ls, values with
  | [], [], .nil => exact ⟨ks, .keywords ks, pairs⟩
  | [p], [l], .cons value .nil => exact ⟨("name", p.1) :: ks, .name p.1 p.2 ks, .cons ⟨rfl, value⟩ pairs⟩
  | _ :: _ :: _, _ :: _ :: _, .cons _ (.cons _ _) => simp at few

/-- arguments that are in order are read, and no keyword is given twice -/
theorem exists_read_of_gives {args : List (Argument Expr)} {given : List (String × Expr)}
    (gives : Gives c (some args) given) :
    ∃ g, read c args = .ok g ∧ g.positional.length ≤ 1 ∧ List.Forall₂ Evaluates given g.pairs := by
  obtain ⟨⟨_, same, lists⟩, once, allowed, literal⟩ := gives
  cases same
  obtain ⟨ms, values⟩ := exists_evaluates literal
  have known {ks : List (String × Expr)} {ms : List (String × Literal)} (evaluated : List.Forall₂ Evaluates ks ms)
      (all : ∀ k ∈ ks, k.1 ∈ c.keywords) : ∀ m ∈ ms, m.1 ∈ c.keywords := fun m hm => by
    obtain ⟨k, hk, same, -⟩ := exists_mem_of_forall₂ evaluated hm
    exact same ▸ all k hk
  cases lists with
  | keywords =>
    refine ⟨⟨[], ms⟩, read_eq_ok_iff.2 ⟨foldlM_add_eq_ok_iff.2 ?_, by simp, known values allowed⟩, by simp, values⟩
    exact ⟨[], given, [], ms, rfl, .inl rfl, once, by simp, .nil, values, rfl⟩
  | name value text ks =>
    obtain ⟨⟨key, l⟩, ms, ⟨same, here⟩, rest, rfl⟩ := List.forall₂_cons_left_iff.1 values
    obtain rfl : "name" = key := same
    have keywords : ∀ k ∈ ks, k.1 ∈ c.keywords := fun k hk => allowed k (List.mem_cons_of_mem _ hk)
    refine ⟨⟨[l], ms⟩, read_eq_ok_iff.2 ⟨foldlM_add_eq_ok_iff.2 ?_, by simp, known rest keywords⟩, by simp, values⟩
    exact ⟨[(value, text)], ks, [l], ms, rfl, .inr rfl, (List.nodup_cons.1 once).2, by simp, .cons here .nil, rest, rfl⟩

/-- a link is read from arguments just when they are in order and what they give makes it -/
theorem read_link_eq_ok_iff {args : List (Argument Expr)} {l : Link} :
    (read c args >>= link c) = .ok l ↔ ∃ given, Gives c (some args) given ∧ Builds (KeywordMap.of given) c l := by
  have same {g : Given} {given : List (String × Expr)} (values : List.Forall₂ Evaluates given g.pairs) :
      g.map = KeywordMap.of given := funext fun key => lookup_of_evaluates values key
  have once {g : Given} {args : List (Argument Expr)} (read : read c args = .ok g) :
      (g.keywords.map Prod.fst).Nodup := by
    obtain ⟨first, ks, ls, ms, -, -, once, -, -, pairs, rfl⟩ :=
      foldlM_add_eq_ok_iff.1 (read_eq_ok_iff.1 read).1
    exact keys_of_evaluates pairs ▸ once
  rw [bind_eq_ok_iff]
  constructor
  · rintro ⟨g, read, linked⟩
    obtain ⟨distinct, made⟩ := (link_eq_ok_iff (read_eq_ok_iff.1 read).2.1 (once read)).1 linked
    obtain ⟨given, gives, values⟩ := exists_gives_of_read read distinct
    exact ⟨given, gives, same values ▸ made⟩
  · rintro ⟨given, gives, made⟩
    obtain ⟨g, read, few, values⟩ := exists_read_of_gives gives
    exact ⟨g, read, (link_eq_ok_iff few (once read)).2 ⟨keys_of_evaluates values ▸ gives.once, same values ▸ made⟩⟩

end Given

end Trialbook
