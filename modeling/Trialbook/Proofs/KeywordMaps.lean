/-
KEYWORD MAPS: a call to a combinator means what its keywords are given, however that is written.

Results:
- `exists_builds_iff`: a map makes a link just when it has the name and each keyword takes what it is given.
- `Respelled.exists_gives_iff`: another way to write the same arguments makes the same link.
- `link_means_keywords`: what a decorator is read as.
-/
import Trialbook.Proofs.GivenArguments

namespace Trialbook

open Source

/-! ## Links that a map makes -/

theorem KeywordMap.stated_eq_some_iff {m : KeywordMap} {key : String} {l : Literal} :
    m.stated key = some l ↔ m key = some l ∧ l ≠ .scalar .absent := by
  rw [stated, Option.filter_eq_some_iff, decide_eq_true_eq]

/-- the literals that each keyword takes -/
theorem Takes.shape {key : String} {l : Literal} (h : Takes key l) :
    (key = "seed" → ∃ i, l = .scalar (.value (.int i))) ∧ (key = "default" → ∃ v, l = .scalar (.value v)) ∧
      (key = "description" → ∃ s, l = .scalar (.value (.str s))) ∧
      (key = "required" → ∃ b, l = .scalar (.value (.bool b))) ∧ (key = "type" → ∃ k, l = .kind k) ∧
      (key = "options" → ∃ vs : List Value, l = .sequence (vs.map .value)) := by
  cases h <;> simp

variable {m m' : KeywordMap} {c : Combinator} {l : Link}

/-- only what keywords state has a bearing on the link -/
theorem Builds.of_stated (same : m.stated = m'.stated) (h : Builds m c l) : Builds m' c l := by
  cases h with
  | experiment named seeded => exact .experiment (same ▸ named) (same ▸ seeded)
  | param named stated described demanded typed offered =>
    exact .param (same ▸ named) (same ▸ stated) (same ▸ described) (same ▸ demanded) (same ▸ typed) (same ▸ offered)

/-- what is stated for a keyword of a link is what the keyword takes -/
theorem Builds.takes {key : String} {v : Literal} (h : Builds m c l) (keyword : key ∈ c.keywords) (other : key ≠ "name")
    (given : m.stated key = some v) : Takes key v := by
  have taken {α : Type} {takes : α → Literal} {y : Option α} (all : ∀ a, Takes key (takes a))
      (stated : m.stated key = y.map takes) : Takes key v := by
    obtain ⟨a, -, rfl⟩ := Option.map_eq_some_iff.1 (stated.symm.trans given)
    exact all a
  cases h with
  | experiment _ seeded =>
    simp only [Combinator.keywords, List.mem_cons, List.not_mem_nil, or_false] at keyword
    rcases keyword with rfl | rfl
    · exact absurd rfl other
    · exact taken .seed seeded
  | param _ stated described demanded typed offered =>
    simp only [Combinator.keywords, List.mem_cons, List.not_mem_nil, or_false] at keyword
    rcases keyword with rfl | rfl | rfl | rfl | rfl | rfl
    · exact absurd rfl other
    · exact taken .default stated
    · exact taken .description described
    · rw [given, Option.getD_some] at demanded
      exact demanded ▸ .required _
    · exact taken .type typed
    · exact taken .options offered

/-- a map makes a link just when it has the name, a text, and each other keyword takes what it is given -/
theorem exists_builds_iff (allowed : ∀ key, m key ≠ none → key ∈ c.keywords) :
    (∃ l, Builds m c l) ↔ (∃ name, m "name" = some (.scalar (.value (.str name)))) ∧
      ∀ key v, key ≠ "name" → m key = some v → v = .scalar .absent ∨ Takes key v := by
  constructor
  · rintro ⟨l, made⟩
    constructor
    · cases made with
      | experiment named => exact ⟨_, (KeywordMap.stated_eq_some_iff.1 named).1⟩
      | param named => exact ⟨_, (KeywordMap.stated_eq_some_iff.1 named).1⟩
    · intro key v other given
      refine or_iff_not_imp_left.2 fun something => ?_
      exact made.takes (allowed key (given ▸ Option.some_ne_none v)) other
        (KeywordMap.stated_eq_some_iff.2 ⟨given, something⟩)
  · rintro ⟨⟨name, named⟩, fits⟩
    have named : m.stated "name" = some (.scalar (.value (.str name))) :=
      KeywordMap.stated_eq_some_iff.2 ⟨named, by simp⟩
    have takes {key : String} {v : Literal} (other : key ≠ "name") (given : m.stated key = some v) : Takes key v := by
      obtain ⟨given, something⟩ := KeywordMap.stated_eq_some_iff.1 given
      exact (fits key v other given).resolve_left something
    have optional {α : Type} {f : α → Literal} {key : String} (other : key ≠ "name")
        (shape : ∀ v, Takes key v → ∃ a, v = f a) : ∃ y : Option α, m.stated key = y.map f := by
      cases given : m.stated key with
      | none => exact ⟨none, rfl⟩
      | some v =>
        obtain ⟨a, rfl⟩ := shape v (takes other given)
        exact ⟨some a, rfl⟩
    cases c with
    | experiment =>
      obtain ⟨seed, seeded⟩ := optional (by decide) fun v (h : Takes "seed" v) => h.shape.1 rfl
      exact ⟨_, .experiment (d := ⟨name, seed⟩) named seeded⟩
    | param =>
      obtain ⟨default, stated⟩ := optional (by decide) fun v (h : Takes "default" v) => h.shape.2.1 rfl
      obtain ⟨description, described⟩ := optional (by decide) fun v (h : Takes "description" v) => h.shape.2.2.1 rfl
      obtain ⟨required, demanded⟩ := optional (by decide) fun v (h : Takes "required" v) => h.shape.2.2.2.1 rfl
      obtain ⟨kind, typed⟩ := optional (by decide) fun v (h : Takes "type" v) => h.shape.2.2.2.2.1 rfl
      obtain ⟨options, offered⟩ := optional (by decide) fun v (h : Takes "options" v) => h.shape.2.2.2.2.2 rfl
      refine ⟨_, .param (d := ⟨name, kind, default, description, required.getD false, options⟩) named stated described
        ?_ typed offered⟩
      rw [demanded]
      cases required <;> rfl

/-! ## Ways to write the same arguments -/

/-- another way to write the same arguments -/
inductive Respelled (c : Combinator) : List (Argument Expr) → List (Argument Expr) → Prop where
  /-- keywords in another order -/
  | permuted {before : List (Argument Expr)} {ks ks' : List (String × Expr)} : ks.Perm ks' →
    Respelled c (before ++ ks.map .ofPair) (before ++ ks'.map .ofPair)
  /-- the name under its keyword -/
  | named (value : Expr) (text : String) (rest : List (Argument Expr)) :
    Respelled c (.positional value text :: rest) (.keyword "name" value :: rest)
  /-- one more keyword, which is given nothing -/
  | nothing {args : List (Argument Expr)} {key : String} {value : Expr} : key ∈ c.keywords → key ≠ "name" →
    (∀ other, .keyword key other ∉ args) → value.literal? = some (.scalar .absent) →
    Respelled c args (args ++ [.keyword key value])

section

variable {args args' : List (Argument Expr)} {given given' ks : List (String × Expr)}

theorem map_ofPair_inj : (ks.map Argument.ofPair = given.map Argument.ofPair) ↔ ks = given := by
  have pairs : Function.Injective (Argument.ofPair : String × Expr → Argument Expr) := by
    rintro ⟨key, value⟩ ⟨key', value'⟩ same
    cases same
    rfl
  exact (List.map_injective_iff.2 pairs).eq_iff

theorem map_ofPair_ne_positional {value : Expr} {text : String} :
    ks.map Argument.ofPair ≠ .positional value text :: args := by
  cases ks <;> rintro ⟨⟩

theorem lists_iff : Lists args given ↔ args = given.map .ofPair ∨
    ∃ value text ks, args = .positional value text :: ks.map .ofPair ∧ given = ("name", value) :: ks := by
  constructor
  · intro lists
    cases lists with
    | keywords => exact .inl rfl
    | name value text ks => exact .inr ⟨value, text, ks, rfl, rfl⟩
  · rintro (rfl | ⟨value, text, ks, rfl, rfl⟩)
    · exact .keywords given
    · exact .name value text ks

/-- keywords at the end of the arguments are given what stands there -/
theorem lists_append_iff (ks : List (String × Expr)) :
    Lists (args ++ ks.map .ofPair) given ↔ ∃ first, Lists args first ∧ given = first ++ ks := by
  have keywords {args : List (Argument Expr)} {all : List (String × Expr)}
      (whole : args ++ ks.map .ofPair = all.map .ofPair) : ∃ first, args = first.map .ofPair ∧ all = first ++ ks := by
    obtain ⟨first, rest, rfl, rfl, same⟩ := List.append_eq_map_iff.1 whole
    exact ⟨first, rfl, map_ofPair_inj.1 same ▸ rfl⟩
  constructor
  · intro lists
    rcases lists_iff.1 lists with whole | ⟨value, text, all, whole, rfl⟩
    · obtain ⟨first, rfl, rfl⟩ := keywords whole
      exact ⟨first, .keywords first, rfl⟩
    · cases args with
      | nil => exact absurd whole map_ofPair_ne_positional
      | cons a args =>
        obtain ⟨rfl, rest⟩ := List.cons.inj whole
        obtain ⟨first, rfl, rfl⟩ := keywords rest
        exact ⟨_, .name value text first, rfl⟩
  · rintro ⟨first, lists, rfl⟩
    cases lists with
    | keywords => exact List.map_append ▸ .keywords (first ++ ks)
    | name value text all => exact List.cons_append ▸ List.map_append ▸ .name value text (all ++ ks)

/-- a name that stands alone is given the same as under its keyword -/
theorem lists_named_iff {value : Expr} {text : String} {rest : List (Argument Expr)} :
    Lists (.positional value text :: rest) given ↔ Lists (.keyword "name" value :: rest) given := by
  rw [lists_iff, lists_iff]
  constructor
  · rintro (whole | ⟨_, _, ks, whole, rfl⟩)
    · exact absurd whole.symm map_ofPair_ne_positional
    · cases whole
      exact .inl rfl
  · rintro (whole | ⟨_, _, _, whole, -⟩)
    · cases given with
      | nil => cases whole
      | cons k ks =>
        obtain ⟨key, value⟩ := k
        cases whole
        exact .inr ⟨value, text, ks, rfl, rfl⟩
    · cases whole

theorem of_perm (once : (given.map Prod.fst).Nodup) (perm : given.Perm given') :
    KeywordMap.of given = KeywordMap.of given' := by
  have once' : (given'.map Prod.fst).Nodup := (perm.map Prod.fst).nodup_iff.1 once
  funext key
  rw [KeywordMap.of, KeywordMap.of]
  congr 1
  refine Option.ext fun value => ?_
  rw [Table.lookup_eq_some_iff_mem once, Table.lookup_eq_some_iff_mem once', perm.mem_iff]

/-- the order of what is given has no bearing -/
theorem Gives.of_perm (gives : Gives c (some args) given) (perm : given.Perm given') (lists : Lists args' given') :
    Gives c (some args') given' where
  listed := ⟨args', rfl, lists⟩
  once := (perm.map Prod.fst).nodup_iff.1 gives.once
  allowed k hk := gives.allowed k (perm.mem_iff.2 hk)
  literal k hk := gives.literal k (perm.mem_iff.2 hk)

/-- a keyword that is given nothing states what it states when it is not given -/
theorem stated_append_nothing {key : String} {value : Expr} (fresh : key ∉ given.map Prod.fst)
    (nothing : value.literal? = some (.scalar .absent)) :
    (KeywordMap.of (given ++ [(key, value)])).stated = (KeywordMap.of given).stated := by
  funext other
  rw [KeywordMap.stated, KeywordMap.stated, KeywordMap.of, KeywordMap.of, List.lookup_append]
  by_cases here : other = key
  · subst here
    have absent : given.lookup other = none := List.lookup_eq_none_iff.2 fun k hk => by
      have : other ≠ k.1 := fun same => fresh (List.mem_map.2 ⟨k, hk, same.symm⟩)
      simpa using this
    simp [absent, nothing]
  · have apart : [(key, value)].lookup other = none := by simpa using here
    rw [apart, Option.or_none]

/-- another way to write the same arguments makes the same link -/
theorem Respelled.exists_gives_iff (respelled : Respelled c args args') :
    (∃ given, Gives c (some args) given ∧ Builds (KeywordMap.of given) c l) ↔
      ∃ given, Gives c (some args') given ∧ Builds (KeywordMap.of given) c l := by
  have reorder {before : List (Argument Expr)} {ks ks' : List (String × Expr)} (perm : ks.Perm ks')
      (link : ∃ given, Gives c (some (before ++ ks.map .ofPair)) given ∧ Builds (KeywordMap.of given) c l) :
      ∃ given, Gives c (some (before ++ ks'.map .ofPair)) given ∧ Builds (KeywordMap.of given) c l := by
    obtain ⟨given, gives, made⟩ := link
    obtain ⟨_, same, lists⟩ := gives.listed
    cases same
    obtain ⟨first, start, rfl⟩ := (lists_append_iff _).1 lists
    have perm := perm.append_left first
    refine ⟨first ++ ks', gives.of_perm perm ((lists_append_iff ks').2 ⟨first, start, rfl⟩), ?_⟩
    exact of_perm gives.once perm ▸ made
  cases respelled with
  | permuted perm => exact ⟨reorder perm, reorder perm.symm⟩
  | named value text rest =>
    refine exists_congr fun given => and_congr_left fun _ => ?_
    constructor
    · rintro ⟨⟨_, same, lists⟩, once, allowed, literal⟩
      cases same
      exact ⟨⟨_, rfl, lists_named_iff.1 lists⟩, once, allowed, literal⟩
    · rintro ⟨⟨_, same, lists⟩, once, allowed, literal⟩
      cases same
      exact ⟨⟨_, rfl, lists_named_iff.2 lists⟩, once, allowed, literal⟩
  | @nothing _ key value keyword other new absent =>
    have fresh {given : List (String × Expr)} (lists : Lists args given) : key ∉ given.map Prod.fst := fun mem => by
      obtain ⟨k, hk, rfl⟩ := List.mem_map.1 mem
      cases lists with
      | keywords => exact new k.2 (List.mem_map.2 ⟨k, hk, rfl⟩)
      | name value text ks =>
        rcases List.mem_cons.1 hk with rfl | hk
        · exact other rfl
        · exact new k.2 (List.mem_cons_of_mem _ (List.mem_map.2 ⟨k, hk, rfl⟩))
    constructor
    · rintro ⟨given, ⟨⟨_, same, lists⟩, once, allowed, literal⟩, made⟩
      cases same
      have longer := (lists_append_iff [(key, value)]).2 ⟨given, lists, rfl⟩
      refine ⟨given ++ [(key, value)], ⟨⟨_, rfl, longer⟩, ?_, ?_, ?_⟩, ?_⟩
      · rw [List.map_append]
        exact List.nodup_append_comm.1 (List.nodup_cons.2 ⟨fresh lists, once⟩)
      · simpa [or_imp, forall_and, keyword] using allowed
      · simpa [or_imp, forall_and, absent] using literal
      · exact made.of_stated (stated_append_nothing (fresh lists) absent).symm
    · rintro ⟨_, ⟨⟨_, same, lists⟩, once, allowed, literal⟩, made⟩
      cases same
      obtain ⟨given, start, rfl⟩ := (lists_append_iff [(key, value)]).1 lists
      refine ⟨given, ⟨⟨_, rfl, start⟩, ?_, fun k hk => allowed k (List.mem_append_left _ hk),
        fun k hk => literal k (List.mem_append_left _ hk)⟩, ?_⟩
      · rw [List.map_append] at once
        exact (List.nodup_append.1 once).1
      · exact made.of_stated (stated_append_nothing (fresh start) absent)

theorem Gives.unique {args : Option (List (Argument Expr))} (gives : Gives c args given)
    (gives' : Gives c args given') :
    given = given' := by
  obtain ⟨⟨_, rfl, lists⟩, -, -, -⟩ := gives
  obtain ⟨⟨_, same, lists'⟩, -, -, -⟩ := gives'
  cases same
  rcases lists_iff.1 lists with whole | ⟨value, text, ks, rfl, rfl⟩
  · rcases lists_iff.1 lists' with whole' | ⟨_, _, _, whole', -⟩
    · exact map_ofPair_inj.1 (whole.symm.trans whole')
    · exact absurd (whole.symm.trans whole') map_ofPair_ne_positional
  · rcases lists_iff.1 lists' with whole' | ⟨_, _, _, whole', rfl⟩
    · exact absurd whole'.symm map_ofPair_ne_positional
    · obtain ⟨first, rest⟩ := List.cons.inj whole'
      cases first
      rw [map_ofPair_inj.1 rest]

end

/-! ## Decorators -/

namespace Combinator

theorem ofWord?_eq_some_iff {word : String} : ofWord? word = some c ↔ word = c.word := by
  constructor
  · intro named
    rw [ofWord?] at named
    split_ifs at named <;> cases named <;> assumption
  · rintro rfl
    cases c <;> rfl

theorem combinatorCall?_eq_some_iff {e : Expr} {args : Option (List (Argument Expr))} :
    e.combinatorCall? = some (c, args) ↔ e = .call (.name c.word) args := by
  constructor
  · intro call
    unfold Expr.combinatorCall? at call
    split at call
    · obtain ⟨c', named, same⟩ := Option.map_eq_some_iff.1 call
      cases same
      rw [ofWord?_eq_some_iff.1 named]
    · cases call
  · rintro rfl
    rw [Expr.combinatorCall?, ofWord?_eq_some_iff.2 rfl, Option.map_some]

end Combinator

theorem Source.Decorator.link_eq_ok_iff {d : Decorator} {args : Option (List (Argument Expr))}
    (call : d.expr = .call (.name c.word) args) :
    d.link = .ok l ↔ ∃ given, Gives c args given ∧ Builds (KeywordMap.of given) c l := by
  rw [link, Combinator.combinatorCall?_eq_some_iff.2 call]
  cases args with
  | none =>
    refine iff_of_false (fun refused => nomatch refused) ?_
    rintro ⟨_, ⟨⟨_, none, _⟩, _, _, _⟩, _⟩
    cases none
  | some args =>
    rw [← Given.read_link_eq_ok_iff]
    cases read : Given.read c args >>= Given.link c <;> simp [read]

/-! ## Main result -/

/-- **A call to a combinator means its keyword map.** A decorator is foreign just when it calls no combinator by its
name. One that does is a link just when its arguments are in order, the name is a text, and each other keyword is given
nothing or what it takes. Then the link is made of the literals given to the keywords, so decorators that state the same
are the same link: keywords may change their order, the name may stand alone or under its keyword, and a keyword that is
given nothing may be left out. -/
theorem link_means_keywords (d : Decorator) :
    ((∃ text, d.link = .error (.foreign text)) ↔ ∀ (c : Combinator) args, d.expr ≠ .call (.name c.word) args) ∧
    ∀ (c : Combinator) args, d.expr = .call (.name c.word) args →
      ((∃ l, d.link = .ok l) ↔ ∃ given, Gives c args given ∧
        (∃ name, KeywordMap.of given "name" = some (.scalar (.value (.str name)))) ∧
        ∀ key v, key ≠ "name" → KeywordMap.of given key = some v → v = .scalar .absent ∨ Takes key v) ∧
      (∀ l, d.link = .ok l ↔ ∃ given, Gives c args given ∧ Builds (KeywordMap.of given) c l) ∧
      (∀ (d' : Decorator) args' given given', d'.expr = .call (.name c.word) args' → Gives c args given →
        Gives c args' given' → (KeywordMap.of given).stated = (KeywordMap.of given').stated →
        ∀ l, d.link = .ok l ↔ d'.link = .ok l) ∧
      ∀ (d' : Decorator) plain plain', args = some plain → d'.expr = .call (.name c.word) (some plain') →
        Relation.EqvGen (Respelled c) plain plain' → ∀ l, d.link = .ok l ↔ d'.link = .ok l := by
  refine ⟨?_, fun c args call => ⟨?_, fun l => d.link_eq_ok_iff call, ?_, ?_⟩⟩
  · rw [Decorator.link_eq_foreign_iff]
    constructor
    · rintro foreign c args call
      rw [Combinator.combinatorCall?_eq_some_iff.2 call] at foreign
      cases foreign
    · intro other
      rw [Option.eq_none_iff_forall_ne_some]
      exact fun ⟨c, args⟩ call => other c args (Combinator.combinatorCall?_eq_some_iff.1 call)
  · simp only [d.link_eq_ok_iff call]
    rw [exists_comm]
    refine exists_congr fun given => ?_
    rw [exists_and_left]
    refine and_congr_right fun gives => exists_builds_iff fun key given => ?_
    obtain ⟨v, given⟩ := Option.ne_none_iff_exists'.1 given
    obtain ⟨value, here, -⟩ := Option.bind_eq_some_iff.1 given
    exact gives.allowed _ ((Table.lookup_eq_some_iff_mem gives.once).1 here)
  · intro d' args' given given' call' gives gives' same l
    rw [d.link_eq_ok_iff call, d'.link_eq_ok_iff call']
    constructor
    · rintro ⟨_, own, made⟩
      exact ⟨given', gives', (gives.unique own ▸ made).of_stated same⟩
    · rintro ⟨_, own, made⟩
      exact ⟨given, gives, (gives'.unique own ▸ made).of_stated same.symm⟩
  · rintro d' plain plain' rfl call' respelled l
    rw [d.link_eq_ok_iff call, d'.link_eq_ok_iff call']
    clear call call'
    induction respelled with
    | rel _ _ once => exact once.exists_gives_iff
    | refl => exact Iff.rfl
    | symm _ _ _ ih => exact ih.symm
    | trans _ _ _ _ _ ih ih' => exact ih.trans ih'

/-- a parameter with a default -/
def rateGiven : List (String × Expr) := [("name", .string "'lr'"), ("default", .integer "1")]

/-- its name stands alone -/
def ratePlainly : List (Argument Expr) := [.positional (.string "'lr'") "'lr'", .keyword "default" (.integer "1")]

/-- a decorator that declares a parameter -/
def paramOf (args : List (Argument Expr)) : Decorator := ⟨.call (.name "param") (some args), ""⟩

/-- the name alone and a keyword that is given nothing, against all keywords the other way round -/
theorem link_means_keywords_rate :
    let args := ratePlainly ++ [.keyword "required" (.grouped .absent)]
    let given := rateGiven ++ [("required", .grouped .absent)]
    let args' := rateGiven.reverse.map Argument.ofPair
    (paramOf args).expr = .call (.name Combinator.param.word) (some args) ∧
    Gives .param (some args) given ∧ Gives .param (some args') rateGiven.reverse ∧
    (KeywordMap.of given).stated = (KeywordMap.of rateGiven.reverse).stated ∧
    Relation.EqvGen (Respelled .param) args args' ∧ (∀ l, (paramOf args).link = .ok l ↔ (paramOf args').link = .ok l) ∧
    (paramOf args').link = .ok (.param ⟨"lr", none, some (.int 1), none, false, none⟩) := by
  intro args given args'
  have gives : Gives .param (some args) given :=
    ⟨⟨args, rfl, .name (.string "'lr'") "'lr'" [("default", .integer "1"), ("required", .grouped .absent)]⟩,
      by decide, by decide, by decide +kernel⟩
  have gives' : Gives .param (some args') rateGiven.reverse :=
    ⟨⟨args', rfl, .keywords rateGiven.reverse⟩, by decide, by decide, by decide +kernel⟩
  have same : (KeywordMap.of given).stated = (KeywordMap.of rateGiven.reverse).stated := by
    rw [stated_append_nothing (by decide) rfl, of_perm (by decide) rateGiven.reverse_perm.symm]
  have dropped : Respelled .param ratePlainly args := .nothing (by decide) (by decide) (by simp [ratePlainly]) rfl
  have named : Respelled .param ratePlainly (rateGiven.map .ofPair) :=
    .named (.string "'lr'") "'lr'" [.keyword "default" (.integer "1")]
  have turned : Respelled .param ([] ++ rateGiven.map .ofPair) ([] ++ args') :=
    .permuted rateGiven.reverse_perm.symm
  have respelled : Relation.EqvGen (Respelled .param) args args' :=
    .trans _ _ _ (.symm _ _ (.rel _ _ dropped)) (.trans _ _ _ (.rel _ _ named) (.rel _ _ turned))
  obtain ⟨-, -, byMap, bySpelling⟩ := (link_means_keywords (paramOf args)).2 .param (some args) rfl
  exact ⟨rfl, gives, gives', same, respelled, bySpelling (paramOf args') args args' rfl rfl respelled,
    (byMap (paramOf args') _ _ _ rfl gives gives' same _).1 (by decide +kernel)⟩

end Trialbook
