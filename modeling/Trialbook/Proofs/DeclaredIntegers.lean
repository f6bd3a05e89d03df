/-
DECLARED INTEGERS: integers of sixty-four bits, as defaults and as seeds.

An integer is written in decimal digits with a minus sign when it is negative. A declaration that states one is found
with it, except for the least: its digits without the sign are out of range, so it is no literal
(`Written.literal?_integer`, `Written.literal?_least`).

Results:
- `Extraction.ofText_written`: a file that holds only one written declaration is extracted as its function is judged.
- `declares_integers`: every integer but the least can be declared, and the least makes the declaration skipped.
- `not_every_integer_declared`: the least is an integer, too.
-/
import Trialbook.Proofs.Extractions
import Trialbook.Proofs.LiteralGrammar
import Trialbook.Proofs.CheckedDrafts
import Trialbook.Proofs.KeywordMaps
import Trialbook.Proofs.WrittenDeclarations

namespace Trialbook

open Source.Written

/-! ## Literals as they are written -/

namespace StringLiteral

theorem unescape?_of_plain {cs : List Char} (plain : '\\' ∉ cs) : unescape? cs = some cs := by
  induction cs with
  | nil => rw [unescape?]
  | cons c cs ih =>
    have first : c ≠ '\\' := fun same => plain (by simp [same])
    rw [unescape?, ih fun member => plain (List.mem_cons_of_mem c member)]
    · rfl
    · exact fun same _ => first same
    · exact fun _ _ same _ => first same

theorem parts_quoted {s : String} (plain : Source.Reads.IsPlainText s) :
    Parts (String.ofList (Source.Reads.quoted s)) [] ['"'] s.toList ['"'] where
  written := by rw [String.toList_ofList]; rfl
  unquoted := by simp
  opened := by
    refine ⟨'"', rfl, .inr ⟨rfl, ?_⟩⟩
    rintro ⟨more, two⟩
    cases body : s.toList with
    | nil => exact plain.1 (String.toList_eq_nil_iff.1 body)
    | cons k cs =>
      rw [body] at two
      exact (plain.2 k (by simp [body])).1 (List.cons.inj two).1.symm
  closed := rfl

end StringLiteral

namespace NumberLiteral

/-- the digits of a number are read as the number, if it is in range -/
theorem integer?_repr (m : Nat) : integer? (Nat.repr m) = Integer.int64? m := by
  obtain ⟨some, digits⟩ := digits_repr m
  have plain : ∀ d ∈ (Nat.repr m).toList, d ≠ '_' ∧ FloatText.lower d = d ∧ d ∉ ['x', 'o', 'b'] := by
    intro d member
    have each := Source.Reads.of_isDecimal
      (p := fun d => d != '_' && FloatText.lower d == d && !(['x', 'o', 'b'].contains d)) (by decide) (digits d member)
    simpa [and_assoc] using each
  have whole : (digitsOf (Nat.repr m)).map FloatText.lower = (Nat.repr m).toList := by
    have kept : digitsOf (Nat.repr m) = (Nat.repr m).toList :=
      List.filter_eq_self.2 fun d member => by simpa using (plain d member).1
    rw [kept]
    exact (List.map_congr_left fun d member => (plain d member).2.1).trans (List.map_id _)
  have value : Integer.natural? 10 (Nat.repr m).toList = .some m := by
    rw [Integer.natural?_of_isDecimal (Integer.isDecimal_repr m), Nat.toList_repr,
      Nat.ofDigitChars_toDigits (by decide) (by decide)]
  have unmarked (l : Char) (mark : l ∈ ['x', 'o', 'b']) (ds : List Char) : (Nat.repr m).toList ≠ '0' :: l :: ds :=
    fun same => (plain l (by simp [same])).2.2 mark
  rw [integer?, whole]
  split
  · exact absurd ‹_› (unmarked 'x' (by decide) _)
  · exact absurd ‹_› (unmarked 'o' (by decide) _)
  · exact absurd ‹_› (unmarked 'b' (by decide) _)
  · simp only [value, Option.bind_some]

end NumberLiteral

namespace Source.Written

theorem literal?_quoted {s : String} (plain : Reads.IsPlainText s) :
    (Operand.quoted s).expr.literal? = some (.scalar (.value (.str s))) := by
  have value : StringLiteral.value? (String.ofList (Reads.quoted s)) = some s := by
    rw [(StringLiteral.parts_quoted plain).value?_eq,
      StringLiteral.unescape?_of_plain fun member => (plain.2 _ member).2.1 rfl]
    simp [String.ofList_toList]
  refine Expr.literal?_of_scalar? ?_
  rw [Operand.expr, Expr.scalar?, value, Option.map_some]

theorem literal?_integer {n : Int64} (more : n ≠ Int64.minValue) :
    (Operand.integer n.toInt).expr.literal? = some (.scalar (.value (.int n))) := by
  refine Expr.literal?_of_scalar? (Expr.scalar?_of_denotesNumber ?_)
  rw [Operand.expr]
  split
  · rename_i negative
    have opposite := Expr.opposite_iff.2 ⟨more, rfl⟩
    have read : NumberLiteral.integer? (Nat.repr n.toInt.natAbs) = some (-n) := by
      rw [NumberLiteral.integer?_repr, Integer.int64?_eq_some_iff, opposite]
      omega
    exact .minusInt (.integer read) (by rw [opposite, Int.neg_neg])
  · rename_i positive
    have read : NumberLiteral.integer? (Nat.repr n.toInt.natAbs) = some n := by
      rw [NumberLiteral.integer?_repr, Integer.int64?_eq_some_iff]
      omega
    exact .integer read

/-- without its sign the least integer is out of range -/
theorem literal?_least : (Operand.integer Int64.minValue.toInt).expr.literal? = none := by
  -- the digits alone spell the number after the greatest
  have read : NumberLiteral.integer? (Nat.repr Int64.minValue.toInt.natAbs) = none := by
    rw [NumberLiteral.integer?_repr]
    decide
  have negative : Int64.minValue.toInt < 0 := by decide
  rw [Operand.expr, if_pos negative, Expr.literal?, Expr.scalar?, Expr.scalar?, read]
  · rfl
  all_goals intros; simp_all

end Source.Written

/-! ## Calls to combinators -/

theorem Given.read_opaque {c : Combinator} {e v : Source.Expr} {text key : String} {l : Literal}
    (name : e.literal? = some l) (value : v.literal? = none) :
    read c [.positional e text, .keyword key v] = .error (.opaqueKeyword key) := by
  simp [read, add, name, value]
  rfl

namespace Source.Written

open Reads

variable {c : Combinator} {name key function argument : String} {n : Int64}

theorem isPlainText_of_spelled (spelled : Name.Spelled name) : IsPlainText name := by
  obtain ⟨first, letters, whole, begins, goes⟩ := spelled
  refine ⟨fun none => by simp [none] at whole, fun k member => ?_⟩
  have letter : Name.GoesOn k := by
    rw [whole] at member
    exact List.forall_mem_cons.2 ⟨.inl begins, goes⟩ k member
  have plain := of_goesOn (p := fun k => k != '"' && k != '\\' && k != '\n' && k != '\x00') (by decide) letter
  simpa [and_assoc] using plain

theorem isName_of_isWord (word : Name.isWord name.toList = true) (other : name ∉ reserved) : IsName name :=
  ⟨Name.isWord_iff.1 word, other⟩

theorem isName_word (c : Combinator) : IsName c.word := by
  cases c <;> exact isName_of_isWord (by decide) (by decide)

/-- a name alone -/
def bareCall (c : Combinator) (name : String) : Call := ⟨c.word, .positional (.quoted name), []⟩

/-- a name, and an integer under a keyword -/
def integerCall (c : Combinator) (name key : String) (n : Int64) : Call :=
  ⟨c.word, .positional (.quoted name), [.keyword key (.integer n.toInt)]⟩

theorem proper_bareCall (c : Combinator) (plain : IsPlainText name) : (bareCall c name).Proper :=
  ⟨isName_word c, plain, by simp [bareCall]⟩

theorem proper_integerCall (c : Combinator) (plain : IsPlainText name) (keyword : IsName key) (n : Int64) :
    (integerCall c name key n).Proper :=
  ⟨isName_word c, plain, by simpa [integerCall] using ⟨keyword, trivial⟩⟩

/-- the arguments that are read of such a call -/
def integerArguments (name key : String) (n : Int64) : List (Source.Argument Expr) :=
  [.positional (Operand.quoted name).expr (String.ofList (quoted name)), .keyword key (Operand.integer n.toInt).expr]

/-- the keywords that they give -/
def integerGiven (name key : String) (n : Int64) : List (String × Expr) :=
  [("name", (Operand.quoted name).expr), (key, (Operand.integer n.toInt).expr)]

theorem expr_integerCall : (integerCall c name key n).decorator.expr =
    .call (.name c.word) (some (integerArguments name key n)) := rfl

theorem gives_integerArguments (plain : IsPlainText name) (more : n ≠ Int64.minValue) (known : key ∈ c.keywords)
    (other : key ≠ "name") : Gives c (some (integerArguments name key n)) (integerGiven name key n) where
  listed := ⟨_, rfl, .name _ _ [(key, (Operand.integer n.toInt).expr)]⟩
  once := by simpa [integerGiven] using other.symm
  allowed := by
    have named : "name" ∈ c.keywords := by cases c <;> decide
    simp [integerGiven, known, named]
  literal := by simp [integerGiven, literal?_quoted plain, literal?_integer more]

theorem link_bareCall (plain : IsPlainText name) :
    (bareCall .experiment name).decorator.link = .ok (.experiment ⟨name, none⟩) := by
  have call : (bareCall .experiment name).decorator.expr = .call (.name Combinator.experiment.word)
      (some [.positional (Operand.quoted name).expr (String.ofList (quoted name))]) := rfl
  refine (Decorator.link_eq_ok_iff call).2 ⟨[("name", (Operand.quoted name).expr)], ?_, ?_⟩
  · exact ⟨⟨_, rfl, .name _ _ []⟩, by simp, by simp [Combinator.keywords], by simp [literal?_quoted plain]⟩
  · constructor <;> simp [KeywordMap.stated, KeywordMap.of, List.lookup_cons, literal?_quoted plain]

/-- what they state -/
theorem stated_integerGiven (plain : IsPlainText name) (more : n ≠ Int64.minValue) (word : String) :
    (KeywordMap.of (integerGiven name key n)).stated word =
      if word = "name" then some (.scalar (.value (.str name)))
      else if word = key then some (.scalar (.value (.int n))) else none := by
  by_cases first : word = "name"
  · subst first
    simp [KeywordMap.stated, KeywordMap.of, integerGiven, literal?_quoted plain]
  · have apart : (word == "name") = false := by simpa using first
    by_cases second : word = key
    · subst second
      simp [KeywordMap.stated, KeywordMap.of, integerGiven, List.lookup_cons, apart, first, literal?_integer more]
    · have other : (word == key) = false := by simpa using second
      simp [KeywordMap.stated, KeywordMap.of, integerGiven, List.lookup_cons, apart, other, first, second]

theorem link_seed (plain : IsPlainText name) (more : n ≠ Int64.minValue) :
    (integerCall .experiment name "seed" n).decorator.link = .ok (.experiment ⟨name, some n⟩) := by
  have gives : Gives .experiment (some (integerArguments name "seed" n)) (integerGiven name "seed" n) :=
    gives_integerArguments plain more (by decide) (by decide)
  refine (Decorator.link_eq_ok_iff expr_integerCall).2 ⟨_, gives, ?_⟩
  constructor <;> simp [stated_integerGiven plain more]

theorem link_default (plain : IsPlainText name) (more : n ≠ Int64.minValue) :
    (integerCall .param name "default" n).decorator.link =
      .ok (.param ⟨name, none, some (.int n), none, false, none⟩) := by
  have gives : Gives .param (some (integerArguments name "default" n)) (integerGiven name "default" n) :=
    gives_integerArguments plain more (by decide) (by decide)
  refine (Decorator.link_eq_ok_iff expr_integerCall).2 ⟨_, gives, ?_⟩
  constructor <;> simp [stated_integerGiven plain more]

/-- the least integer is no literal, and its keyword is to blame -/
theorem link_least (c : Combinator) (plain : IsPlainText name) :
    (integerCall c name key Int64.minValue).decorator.link = .error (.malformed (.opaqueKeyword key)) := by
  have refused : Given.read c (integerArguments name key Int64.minValue) = .error (.opaqueKeyword key) :=
    Given.read_opaque (literal?_quoted plain) literal?_least
  rw [Decorator.link, Combinator.combinatorCall?_eq_some_iff.2 expr_integerCall]
  simp only [refused]
  rfl

end Source.Written

/-! ## Declarations of integers -/

open Source (Function)

/-- a file that holds only one written declaration -/
theorem Extraction.ofText_written {d : Declaration} (proper : d.Proper) :
    ofText (String.ofList d.written) = empty.step none (d.function (d.others.length + 2)) := by
  rw [ofText, addText_of_read rfl (Declaration.read?_eq proper)]
  rfl

theorem Source.Function.verdict_of_unread {f : Function} {e : LinkError} (declared : f.isDeclaration = true)
    (refused : f.decorators.mapM Decorator.link = .error e) : f.verdict = .ok (.skipped (.unresolved e)) := by
  rw [verdict, if_pos declared, refused]

theorem Draft.spec_default {p : String} (valid : Name.Valid p) (n : Int64) :
    (⟨p, none, some (.int n), none, false, none⟩ : Draft).spec = .ok ⟨p, .int, some (.int n), false, none, []⟩ := by
  rw [spec, checkName_eq_ok_iff.2 valid]
  rfl

/-- an experiment on a function of one argument, with a parameter that has an integer as its default -/
def paramDeclaration (p : String) (n : Int64) (function argument : String) : Declaration :=
  ⟨bareCall .experiment "exp", [integerCall .param p "default" n], function, argument⟩

/-- an experiment on such a function, with an integer as its seed -/
def seedDeclaration (n : Int64) (function argument : String) : Declaration :=
  ⟨integerCall .experiment "exp" "seed" n, [], function, argument⟩

section

variable {p function argument : String} {n : Int64}

theorem plain_exp : Source.Reads.IsPlainText "exp" := isPlainText_of_spelled (Name.isWord_iff.1 (by decide))

theorem checkName_exp : checkName "exp" = .ok () := rfl

theorem proper_paramDeclaration (valid : Name.Valid p) (named : Name.Spelled function)
    (spelled : Name.Spelled argument) : (paramDeclaration p n function argument).Proper where
  first := proper_bareCall _ plain_exp
  others := by
    have keyword : IsName "default" := isName_of_isWord (by decide) (by decide)
    simpa [paramDeclaration] using proper_integerCall .param (isPlainText_of_spelled valid.2) keyword n
  name := named
  parameter := spelled

theorem proper_seedDeclaration (named : Name.Spelled function) (spelled : Name.Spelled argument) :
    (seedDeclaration n function argument).Proper where
  first := proper_integerCall _ plain_exp (isName_of_isWord (by decide) (by decide)) n
  others := by simp [seedDeclaration]
  name := named
  parameter := spelled

theorem verdict_paramDeclaration (valid : Name.Valid p) (more : n ≠ Int64.minValue) (line : Nat) :
    ((paramDeclaration p n function argument).function line).verdict =
      .ok (.kept ⟨"exp", none⟩ [⟨p, .int, some (.int n), false, none, []⟩]) := by
  have links : ((paramDeclaration p n function argument).function line).decorators.mapM Source.Decorator.link =
      .ok [.experiment ⟨"exp", none⟩, .param ⟨p, none, some (.int n), none, false, none⟩] :=
    mapM_eq_ok_iff.2 (.cons (link_bareCall plain_exp)
      (.cons (link_default (isPlainText_of_spelled valid.2) more) .nil))
  refine Source.Function.verdict_eq_kept_iff.2
    ⟨rfl, [⟨p, none, some (.int n), none, false, none⟩], links, ?_, ?_, checkName_exp⟩
  · simp
  · exact mapM_eq_ok_iff.2 (.cons (Draft.spec_default valid n) .nil)

theorem verdict_seedDeclaration (more : n ≠ Int64.minValue) (line : Nat) :
    ((seedDeclaration n function argument).function line).verdict = .ok (.kept ⟨"exp", some n⟩ []) := by
  have links : ((seedDeclaration n function argument).function line).decorators.mapM Source.Decorator.link =
      .ok [.experiment ⟨"exp", some n⟩] := mapM_eq_ok_iff.2 (.cons (link_seed plain_exp more) .nil)
  exact Source.Function.verdict_eq_kept_iff.2 ⟨rfl, [], links, by simp, rfl, checkName_exp⟩

theorem verdict_paramDeclaration_least (valid : Name.Valid p) (line : Nat) :
    ((paramDeclaration p Int64.minValue function argument).function line).verdict =
      .ok (.skipped (.unresolved (.malformed (.opaqueKeyword "default")))) := by
  refine Source.Function.verdict_of_unread rfl ?_
  have first : (bareCall .experiment "exp").decorator.link = _ := link_bareCall plain_exp
  have second : (integerCall .param p "default" Int64.minValue).decorator.link = _ :=
    link_least .param (isPlainText_of_spelled valid.2)
  show [(bareCall .experiment "exp").decorator, (integerCall .param p "default" Int64.minValue).decorator].mapM
    Source.Decorator.link = _
  rw [List.mapM_cons, first, List.mapM_cons, second]
  rfl

theorem verdict_seedDeclaration_least (line : Nat) :
    ((seedDeclaration Int64.minValue function argument).function line).verdict =
      .ok (.skipped (.unresolved (.malformed (.opaqueKeyword "seed")))) := by
  refine Source.Function.verdict_of_unread rfl ?_
  have only : (integerCall .experiment "exp" "seed" Int64.minValue).decorator.link = _ :=
    link_least .experiment plain_exp
  show [(integerCall .experiment "exp" "seed" Int64.minValue).decorator].mapM Source.Decorator.link = _
  rw [List.mapM_cons, only]
  rfl

end

/-! ## Texts -/

/-- the text that declares an integer as a default -/
def paramText (p : String) (n : Int64) (function argument : String) : String :=
  "@experiment(\"exp\")\n@param(\"" ++ p ++ "\", default=" ++ Integer.text n.toInt ++ ")\ndef " ++ function ++ "(" ++
    argument ++ "):\n    pass\n"

/-- the text that declares an integer as a seed -/
def seedText (n : Int64) (function argument : String) : String :=
  "@experiment(\"exp\", seed=" ++ Integer.text n.toInt ++ ")\ndef " ++ function ++ "(" ++ argument ++ "):\n    pass\n"

theorem paramText_eq (p : String) (n : Int64) (function argument : String) :
    paramText p n function argument = String.ofList (paramDeclaration p n function argument).written := by
  refine String.toList_inj.1 ?_
  rw [String.toList_ofList, Declaration.written_eq]
  -- not by simp, which is slow to make an equation of so long a text
  unfold paramText
  simp only [String.toList_append, paramDeclaration, bareCall, integerCall, Call.written, Argument.written,
    Operand.written, Source.Reads.quoted, laterDecorators, laterArguments, Source.Reads.definition,
    List.flatMap_cons, List.flatMap_nil, List.append_assoc, List.cons_append, List.nil_append]
  rfl

theorem seedText_eq (n : Int64) (function argument : String) :
    seedText n function argument = String.ofList (seedDeclaration n function argument).written := by
  refine String.toList_inj.1 ?_
  rw [String.toList_ofList, Declaration.written_eq]
  unfold seedText
  simp only [String.toList_append, seedDeclaration, integerCall, Call.written, Argument.written, Operand.written,
    Source.Reads.quoted, laterDecorators, laterArguments, Source.Reads.definition,
    List.flatMap_cons, List.flatMap_nil, List.append_assoc, List.cons_append, List.nil_append]
  rfl

/-! ## Extractions -/

section

variable {p function argument : String} {n : Int64}

/-- found, with the integer as the default of the parameter -/
theorem extracts_default (valid : Name.Valid p) (named : Name.Spelled function) (spelled : Name.Spelled argument)
    (more : n ≠ Int64.minValue) : Extraction.ofText (paramText p n function argument) =
      ⟨[⟨"exp", none, function, 3, none, [⟨p, .int, some (.int n), false, none, []⟩]⟩], [], none⟩ := by
  rw [paramText_eq, Extraction.ofText_written (proper_paramDeclaration valid named spelled),
    Extraction.step_of_kept rfl (verdict_paramDeclaration valid more _) (by simp [Extraction.empty])]
  rfl

/-- found, with the integer as the seed -/
theorem extracts_seed (named : Name.Spelled function) (spelled : Name.Spelled argument) (more : n ≠ Int64.minValue) :
    Extraction.ofText (seedText n function argument) = ⟨[⟨"exp", some n, function, 2, none, []⟩], [], none⟩ := by
  rw [seedText_eq, Extraction.ofText_written (proper_seedDeclaration named spelled),
    Extraction.step_of_kept rfl (verdict_seedDeclaration more _) (by simp [Extraction.empty])]
  rfl

/-- the least integer is no default -/
theorem skips_default (valid : Name.Valid p) (named : Name.Spelled function) (spelled : Name.Spelled argument) :
    Extraction.ofText (paramText p Int64.minValue function argument) =
      ⟨[], [⟨function, 3, none, .unresolved (.malformed (.opaqueKeyword "default"))⟩], none⟩ := by
  rw [paramText_eq, Extraction.ofText_written (proper_paramDeclaration valid named spelled),
    Extraction.step_of_skipped rfl (verdict_paramDeclaration_least valid _)]
  rfl

/-- nor is it a seed -/
theorem skips_seed (named : Name.Spelled function) (spelled : Name.Spelled argument) :
    Extraction.ofText (seedText Int64.minValue function argument) =
      ⟨[], [⟨function, 2, none, .unresolved (.malformed (.opaqueKeyword "seed"))⟩], none⟩ := by
  rw [seedText_eq, Extraction.ofText_written (proper_seedDeclaration named spelled),
    Extraction.step_of_skipped rfl (verdict_seedDeclaration_least _)]
  rfl

end

/-! ## Main result -/

/-- what is found of a text that declares an integer as a default -/
def FindsDefault (p : String) (n : Int64) (function argument : String) : Prop :=
  Extraction.ofText (paramText p n function argument) =
    ⟨[⟨"exp", none, function, 3, none, [⟨p, .int, some (.int n), false, none, []⟩]⟩], [], none⟩

/-- what is found of a text that declares an integer as a seed -/
def FindsSeed (n : Int64) (function argument : String) : Prop :=
  Extraction.ofText (seedText n function argument) = ⟨[⟨"exp", some n, function, 2, none, []⟩], [], none⟩

/-- the least integer is not found as a default, nor as a seed -/
theorem not_every_integer_declared :
    ¬ ∀ (n : Int64) (p function argument : String), Name.Valid p → Name.Spelled function → Name.Spelled argument →
      FindsDefault p n function argument ∧ FindsSeed n function argument := by
  intro claim
  have lr : Name.Valid "lr" := checkName_eq_ok_iff.1 rfl
  have train : Name.Spelled "train" := Name.isWord_iff.1 (by decide)
  have found := (claim Int64.minValue "lr" "train" "train" lr train train).1
  rw [FindsDefault, skips_default lr train train] at found
  cases found

/-- **Every integer of sixty-four bits but the least can be declared**, as the default of a parameter under any valid
name and as a seed: exactly the one experiment is found, and nothing is left out. With the least integer the declaration
is skipped, for the keyword whose value is no literal. -/
theorem declares_integers (n : Int64) (p function argument : String) (valid : Name.Valid p)
    (named : Name.Spelled function) (spelled : Name.Spelled argument) :
    (n ≠ Int64.minValue → FindsDefault p n function argument ∧ FindsSeed n function argument) ∧
    (n = Int64.minValue →
      Extraction.ofText (paramText p n function argument) =
        ⟨[], [⟨function, 3, none, .unresolved (.malformed (.opaqueKeyword "default"))⟩], none⟩ ∧
      Extraction.ofText (seedText n function argument) =
        ⟨[], [⟨function, 2, none, .unresolved (.malformed (.opaqueKeyword "seed"))⟩], none⟩) := by
  refine ⟨fun more => ⟨extracts_default valid named spelled more, extracts_seed named spelled more⟩, ?_⟩
  rintro rfl
  exact ⟨skips_default valid named spelled, skips_seed named spelled⟩

/-- the integer next to the least, and the least -/
theorem declares_integers_least :
    let next := Int64.minValue + 1
    Name.Valid "offset" ∧ Name.Spelled "train" ∧ Name.Spelled "params" ∧ next ≠ Int64.minValue ∧
    (FindsDefault "offset" next "train" "params" ∧ FindsSeed next "train" "params") ∧
    (Extraction.ofText (paramText "offset" Int64.minValue "train" "params")).found = [] := by
  have valid : Name.Valid "offset" := checkName_eq_ok_iff.1 rfl
  have named : Name.Spelled "train" := Name.isWord_iff.1 (by decide)
  have spelled : Name.Spelled "params" := Name.isWord_iff.1 (by decide)
  have more : Int64.minValue + 1 ≠ Int64.minValue := by decide
  refine ⟨valid, named, spelled, more, (declares_integers _ _ _ _ valid named spelled).1 more, ?_⟩
  rw [((declares_integers _ _ _ _ valid named spelled).2 rfl).1]

end Trialbook
