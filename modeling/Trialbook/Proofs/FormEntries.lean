/-
FORM ENTRIES: an entry of a form tells what the parameter takes, and no text in it can add a line to the form.

An entry is a name line and one line for each of its keys (`Spec.entries`), the values of the keys being scalars or
lists of scalars. Specs are alike (`Spec.Alike`) when they have the same name, description, default and options, up to
how floats are written, are both required or neither, and are of the same kind if they have a default.

Results:
- `Text.lines_intercalate`: lines without breaks are the lines of the text that they make.
- `Spec.fieldLines_eq`: the lines of an entry are its key lines; `Spec.plain_of_mem_keyLines`: none of them has a break.
- `Spec.alike_of_field_eq`: specs with the same entry are alike.
- `Declared.rendered_eq`: a form is its lines, one after the other.
- `form_faithful`: the three together.
-/
import Trialbook.CommandLine.Program
import Trialbook.Proofs.FormScalars
import Trialbook.Proofs.SoundExtractions
import Trialbook.Proofs.SplitTexts

namespace Trialbook

open Form

/-! ## Lines -/

namespace Text

variable {cs : List Char}

theorem withoutReturn_of_not_mem (h : '\r' ∉ cs) : withoutReturn cs = cs :=
  if_neg fun last => h (List.mem_of_getLast? last)

/-- lines that are not empty and have no break are the lines of the text that they make -/
theorem lines_intercalate {ls : List (List Char)} (some : ls ≠ []) (h : ∀ l ∈ ls, l ≠ [] ∧ '\n' ∉ l ∧ '\r' ∉ l) :
    lines (['\n'].intercalate ls) = ls := by
  have kept : ls.dropLast.map withoutReturn = ls.dropLast := by
    refine (List.map_congr_left fun l hl => ?_).trans (List.map_id _)
    exact withoutReturn_of_not_mem (h l (List.mem_of_mem_dropLast hl)).2.2
  simp only [lines]
  rw [split_intercalate some fun l hl => (h l hl).2.1, List.getLast?_eq_getLast_of_ne_nil some]
  split
  · rename_i empty
    exact absurd (Option.some.inj empty) (h _ (List.getLast_mem some)).1
  · rename_i last _ named
    obtain rfl := Option.some.inj named
    rw [kept, List.dropLast_append_getLast]
  · rename_i none
    cases none

end Text

/-! ## Entries -/

theorem plain_of_checkName {name : String} (named : checkName name = .ok ()) : Only isPlain name := by
  intro c hc
  have letter := isLetter_of_checkName named c hc
  rw [Name.isLetter, Bool.or_eq_true, beq_iff_eq] at letter
  rcases letter with letter | rfl
  · exact isPlain_of_isBare (by simp [isBare, letter])
  · decide

namespace Spec

/-- the keys that an entry may have -/
def formKeys : List String := ["description", "required", "default", "options", "type"]

/-- the key of a description, unless that is absent or empty -/
def descriptionEntries (p : Spec) : List (String × String) :=
  if p.description.getD "" = "" then [] else [("description", quote (p.description.getD ""))]

def defaultEntries (p : Spec) : List (String × String) := (p.default.map fun v => ("default", scalar v)).toList

/-- the keys of a choice; a truth value is one of its own -/
def choiceEntries (p : Spec) : List (String × String) :=
  if p.options = [] then (if p.kind = .bool then [("type", "boolean")] else [])
  else [("options", "[" ++ String.intercalate ", " (p.options.map scalar) ++ "]"), ("type", "choice")]

/-- the keys of the entry of a parameter, and their values -/
def entries (p : Spec) : List (String × String) :=
  p.descriptionEntries ++ ("required", Json.truth p.required) :: (p.defaultEntries ++ p.choiceEntries)

/-- the line of a key -/
def entryLine (e : String × String) : String := indent ++ (e.1 ++ ": ") ++ e.2

/-- the name line, and a line for each key -/
def keyLines (p : Spec) : List String := (p.name ++ ":") :: p.entries.map entryLine

theorem fieldLines_eq (p : Spec) : p.fieldLines = p.keyLines := by
  have opening : entryLine ("options", "[" ++ String.intercalate ", " (p.options.map scalar) ++ "]") =
      indent ++ "options: [" ++ String.intercalate ", " (p.options.map scalar) ++ "]" := by
    have key : "options: [" = "options" ++ ": " ++ "[" := rfl
    simp only [entryLine, key, String.append_assoc]
  have parts : p.fieldLines = [p.name ++ ":"] ++ p.descriptionEntries.map entryLine ++
      [entryLine ("required", Json.truth p.required)] ++ p.defaultEntries.map entryLine ++
        p.choiceEntries.map entryLine := by
    refine congrArg₂ _ (congrArg₂ _ (congrArg₂ _ (congrArg₂ _ rfl ?description) rfl) ?default) ?choice
    case description =>
      unfold descriptionEntries
      cases p.description with
      | none => rfl
      | some s =>
        simp only [Option.getD_some, String.isEmpty_iff]
        split_ifs <;> rfl
    case default =>
      unfold defaultEntries
      cases p.default <;> rfl
    case choice =>
      unfold choiceEntries
      simp only [List.isEmpty_iff]
      split_ifs
      · rfl
      · rfl
      · rw [List.map_cons, List.map_singleton, opening]
        rfl
  rw [parts]
  simp only [keyLines, entries, List.map_append, List.map_cons, List.append_assoc, List.cons_append, List.nil_append]

/-- no key comes twice, and they come in their order -/
theorem keys_sublist (p : Spec) : (p.entries.map Prod.fst).Sublist formKeys := by
  have description : (p.descriptionEntries.map Prod.fst).Sublist ["description"] := by
    unfold descriptionEntries
    split_ifs
    · exact List.nil_sublist _
    · exact .refl _
  have default : (p.defaultEntries.map Prod.fst).Sublist ["default"] := by
    unfold defaultEntries
    cases p.default with
    | none => exact List.nil_sublist _
    | some v => exact .refl _
  have choice : (p.choiceEntries.map Prod.fst).Sublist ["options", "type"] := by
    unfold choiceEntries
    split_ifs
    · exact .cons _ (.refl _)
    · exact List.nil_sublist _
    · exact .refl _
  rw [entries, List.map_append, List.map_cons, List.map_append]
  exact description.append (.cons_cons _ (default.append choice))

theorem plain_of_mem_entries {p : Spec} {e : String × String} (h : e ∈ p.entries) : Only isPlain e.2 := by
  rcases List.mem_append.1 h with h | h
  · unfold descriptionEntries at h
    split_ifs at h
    · cases h
    · obtain rfl := List.mem_singleton.1 h
      exact plain_quote _
  · rcases List.mem_cons.1 h with rfl | h
    · exact plain_of_bare (bare_truth _)
    · rcases List.mem_append.1 h with h | h
      · obtain ⟨v, -, rfl⟩ := Option.map_eq_some_iff.1 (Option.mem_toList.1 h)
        exact plain_scalar v
      · unfold choiceEntries at h
        split_ifs at h
        · obtain rfl := List.mem_singleton.1 h
          decide
        · cases h
        · rcases List.mem_cons.1 h with rfl | h
          · refine .append (.append (by decide) (.intercalate (by decide) fun s hs => ?_)) (by decide)
            obtain ⟨v, -, rfl⟩ := List.mem_map.1 hs
            exact plain_scalar v
          · obtain rfl := List.mem_singleton.1 h
            decide

theorem plain_of_mem_keyLines {p : Spec} (named : checkName p.name = .ok ()) {line : String} (h : line ∈ p.keyLines) :
    Only isPlain line := by
  rcases List.mem_cons.1 h with rfl | h
  · exact .append (plain_of_checkName named) (by decide)
  · obtain ⟨e, he, rfl⟩ := List.mem_map.1 h
    have keys : ∀ key ∈ formKeys, Only isPlain (indent ++ (key ++ ": ")) := by decide
    exact .append (keys e.1 (p.keys_sublist.subset (List.mem_map_of_mem he))) (plain_of_mem_entries he)

theorem keyLines_ne_empty {p : Spec} {line : String} (h : line ∈ p.keyLines) : line.toList ≠ [] := by
  rcases List.mem_cons.1 h with rfl | h
  · simp
  · obtain ⟨e, -, rfl⟩ := List.mem_map.1 h
    simp [entryLine, indent]

/-- the lines of an entry are its key lines -/
theorem lines_field {p : Spec} (named : checkName p.name = .ok ()) :
    Text.lines p.field.toList = p.keyLines.map String.toList := by
  rw [field, fieldLines_eq, String.toList_intercalate]
  refine Text.lines_intercalate (fun none => nomatch none) fun l hl => ?_
  obtain ⟨line, member, rfl⟩ := List.mem_map.1 hl
  have plain := plain_of_mem_keyLines named member
  exact ⟨keyLines_ne_empty member, fun feed => absurd (plain _ feed) (by decide),
    fun carriage => absurd (plain _ carriage) (by decide)⟩

/-! ## Reading an entry -/

theorem entries_inj {es es' : List (String × String)} (keys : ∀ e ∈ es, ':' ∉ e.1.toList)
    (keys' : ∀ e ∈ es', ':' ∉ e.1.toList) (h : es.map entryLine = es'.map entryLine) : es = es' := by
  induction es generalizing es' with
  | nil => exact (List.map_eq_nil_iff.1 h.symm).symm
  | cons e es ih =>
    cases es' with
    | nil => cases h
    | cons e' es' =>
      obtain ⟨first, more⟩ := List.cons.inj h
      have texts : (indent.toList ++ e.1.toList) ++ ':' :: (' ' :: e.2.toList) =
          (indent.toList ++ e'.1.toList) ++ ':' :: (' ' :: e'.2.toList) := by
        simpa [entryLine] using congrArg String.toList first
      have free {key : String} (h : ':' ∉ key.toList) : ':' ∉ indent.toList ++ key.toList := fun mem =>
        (List.mem_append.1 mem).elim (by decide) h
      obtain ⟨key, value⟩ := Text.append_separator_inj (free (keys e List.mem_cons_self))
        (free (keys' e' List.mem_cons_self)) texts
      have same : e = e' := Prod.ext (String.toList_inj.1 (List.append_cancel_left key))
        (String.toList_inj.1 (List.cons.inj value).2)
      have later := ih (fun e he => keys e (List.mem_cons_of_mem _ he))
        (fun e he => keys' e (List.mem_cons_of_mem _ he)) more
      rw [same, later]

/-- name and entries can be told from an entry -/
theorem entries_eq_of_field_eq {p q : Spec} (hp : checkName p.name = .ok ()) (hq : checkName q.name = .ok ())
    (h : p.field = q.field) : p.name = q.name ∧ p.entries = q.entries := by
  have lines : p.keyLines.map String.toList = q.keyLines.map String.toList := by
    rw [← lines_field hp, ← lines_field hq, h]
  obtain ⟨first, more⟩ := List.cons.inj ((List.map_injective_iff.2 fun _ _ => String.toList_inj.1) lines)
  have free {r : Spec} : ∀ e ∈ r.entries, ':' ∉ e.1.toList := fun e he =>
    (show ∀ key ∈ formKeys, ':' ∉ key.toList by decide) e.1 (r.keys_sublist.subset (List.mem_map_of_mem he))
  have names := congrArg String.toList first
  rw [String.toList_append, String.toList_append] at names
  exact ⟨String.toList_inj.1 (List.append_cancel_right names), entries_inj free free more⟩

/-- what the keys of an entry say -/
theorem lookup_entries (p : Spec) :
    p.entries.lookup "description" =
      (if p.description.getD "" = "" then none else some (quote (p.description.getD ""))) ∧
    p.entries.lookup "required" = some (Json.truth p.required) ∧
    p.entries.lookup "default" = p.default.map scalar ∧
    p.entries.lookup "options" = (if p.options = [] then none
      else some ("[" ++ String.intercalate ", " (p.options.map scalar) ++ "]")) := by
  unfold entries descriptionEntries defaultEntries choiceEntries
  cases p.default with
  | none => split_ifs <;> simp [List.lookup_cons]
  | some v => split_ifs <;> simp [List.lookup_cons]

theorem forall₂_alike {vs ws : List Value} (h : vs.map scalar = ws.map scalar) : List.Forall₂ Value.Alike vs ws := by
  have scalars : List.Forall₂ (· = ·) (vs.map scalar) (ws.map scalar) := by rw [h, List.forall₂_eq_eq_eq]
  rw [List.forall₂_map_left_iff, List.forall₂_map_right_iff] at scalars
  exact scalars.imp fun _ _ => alike_of_scalar_eq

/-- what a parameter takes is the same, up to how floats are written; the kind, if there is a default -/
structure Alike (p q : Spec) : Prop where
  name : p.name = q.name
  required : p.required = q.required
  description : p.description.getD "" = q.description.getD ""
  default : Option.Rel Value.Alike p.default q.default
  options : List.Forall₂ Value.Alike p.options q.options
  kind : p.default ≠ none → p.kind = q.kind

/-- specs with the same entry are alike -/
theorem alike_of_field_eq {p q : Spec} (hp : p.Sound) (hq : q.Sound) (h : p.field = q.field) : p.Alike q := by
  obtain ⟨name, same⟩ := entries_eq_of_field_eq hp.name hq.name h
  obtain ⟨descriptionOf, requiredOf, defaultOf, optionsOf⟩ := lookup_entries p
  rw [same] at descriptionOf requiredOf defaultOf optionsOf
  obtain ⟨descriptionOf', requiredOf', defaultOf', optionsOf'⟩ := lookup_entries q
  have default : Option.Rel Value.Alike p.default q.default := by
    have scalars := defaultOf.symm.trans defaultOf'
    cases hd : p.default with
    | none =>
      rw [hd] at scalars
      rw [Option.map_eq_none_iff.1 scalars.symm]
      exact .none
    | some v =>
      rw [hd] at scalars
      obtain ⟨w, hw, text⟩ := Option.map_eq_some_iff.1 scalars.symm
      rw [hw]
      exact .some (alike_of_scalar_eq text.symm)
  refine ⟨name, truth_inj (Option.some.inj (requiredOf.symm.trans requiredOf')), ?_, default, ?_, ?_⟩
  · have quoted := descriptionOf.symm.trans descriptionOf'
    split_ifs at quoted with absent absent'
    · rw [absent, absent']
    · exact quote_inj (Option.some.inj quoted)
  · have flow := optionsOf.symm.trans optionsOf'
    split_ifs at flow with empty empty' some
    · rw [empty, empty']
      exact .nil
    · obtain ⟨v, vs, options⟩ := List.exists_cons_of_ne_nil empty
      obtain ⟨w, ws, options'⟩ := List.exists_cons_of_ne_nil some
      have texts := congrArg String.toList (Option.some.inj flow)
      simp only [String.toList_append] at texts
      have scalars := String.toList_inj.1 (List.append_cancel_left (List.append_cancel_right texts))
      rw [options, options'] at scalars ⊢
      exact forall₂_alike (map_scalar_inj scalars)
  · intro stated
    obtain ⟨v, hv⟩ := Option.ne_none_iff_exists'.1 stated
    rw [hv] at default
    generalize hw : q.default = other at default
    cases default with
    | some alike => rw [← hp.default v hv, alike.kind, hq.default _ hw]

end Spec

/-! ## Forms -/

namespace Declared

/-- the lines of a form: the experiment, the command, and the entries under a title -/
def formLines (d : Declared) : List String :=
  ["# " ++ d.name, "run: " ++ d.runArguments, "inputs:"] ++ d.parameters.flatMap fun p => p.keyLines.map ("  " ++ ·)

theorem named_of_mem_parameters {d : Declared} (sound : d.Sound) {p : Spec} (h : p ∈ d.parameters) :
    checkName p.name = .ok () :=
  ((sound.params.withSeed d.seed).sound p h).name

theorem plain_of_mem_formLines {d : Declared} (sound : d.Sound) {line : String} (h : line ∈ d.formLines) :
    Only isPlain line := by
  have token {p : Spec} (hp : p ∈ d.parameters) : Only isPlain p.token := by
    have name := plain_of_checkName (named_of_mem_parameters sound hp)
    exact .append (.append (.append (.append (by decide) name) (by decide)) name) (by decide)
  rcases List.mem_append.1 h with h | h
  · have arguments : Only isPlain d.runArguments := by
      refine .intercalate (by decide) fun t ht => ?_
      obtain ⟨p, hp, rfl⟩ := List.mem_map.1 ht
      exact token hp
    simp only [List.mem_cons, List.not_mem_nil, or_false] at h
    rcases h with rfl | rfl | rfl
    · exact .append (by decide) (plain_of_checkName sound.name)
    · exact .append (by decide) arguments
    · decide
  · obtain ⟨p, hp, indented⟩ := List.mem_flatMap.1 h
    obtain ⟨l, hl, rfl⟩ := List.mem_map.1 indented
    exact .append (by decide) (Spec.plain_of_mem_keyLines (named_of_mem_parameters sound hp) hl)

/-- a form is its lines, one after the other -/
theorem rendered_eq {d : Declared} (sound : d.Sound) :
    Program.rendered d = String.join (d.formLines.map (· ++ "\n")) := by
  have entries : (d.formFields.flatMap fun field => (Text.lines field.toList).map String.ofList) =
      d.parameters.flatMap Spec.keyLines := by
    rw [formFields, Trialbook.formFields, List.flatMap_map]
    refine List.flatMap_congr fun p hp => ?_
    rw [Spec.lines_field (named_of_mem_parameters sound hp), List.map_map]
    exact (List.map_congr_left fun line _ => String.ofList_toList).trans (List.map_id _)
  have indented : (d.parameters.flatMap fun p => p.keyLines.map ("  " ++ ·)).map (· ++ "\n") =
      (d.parameters.flatMap Spec.keyLines).map fun line => "  " ++ line ++ "\n" := by
    simp only [List.map_flatMap, List.map_map, Function.comp_def]
  have opening : "\nrun: " = "\n" ++ "run: " := rfl
  have closing : "\ninputs:\n" = "\n" ++ "inputs:" ++ "\n" := rfl
  rw [Program.rendered, entries, formLines, List.map_append, indented]
  change "# " ++ d.name ++ "\nrun: " ++ d.runArguments ++ "\ninputs:\n" ++ _ = _
  rw [opening, closing]
  refine String.toList_inj.1 ?_
  simp only [String.toList_join, String.toList_append, List.flatMap_append, List.map_cons, List.map_nil,
    List.flatMap_cons, List.flatMap_nil, List.append_assoc, List.append_nil]

end Declared

/-! ## Main result -/

/-- control characters, and the separators of lines and paragraphs -/
def Form.BreaksLine (c : Char) : Prop :=
  c.toNat < 0x20 ∨ (0x7F ≤ c.toNat ∧ c.toNat ≤ 0x9F) ∨ c.toNat = 0x2028 ∨ c.toNat = 0x2029

theorem Form.not_breaksLine_of_isPlain {c : Char} (h : isPlain c = true) : ¬ BreaksLine c := by
  simp only [isPlain, Bool.or_eq_true, Bool.and_eq_true, decide_eq_true_eq] at h
  unfold BreaksLine
  omega

/-- comes out of the check of a draft, or is the seed -/
inductive Spec.Made : Spec → Prop where
  | draft {d : Draft} {p : Spec} : d.spec = .ok p → Made p
  | seed (declared : Option Int64) : Made (.seed declared)

theorem Spec.Made.sound {p : Spec} (h : p.Made) : p.Sound := by
  cases h with
  | draft checked => exact Draft.sound_of_spec checked
  | seed declared => exact Spec.sound_seed declared

/-- **Entries of a form tell what they are for, and cannot be forged.** Parameters with the same entry are alike. The
breaks in an entry are those between its name line and the lines of its keys, none of which comes twice, whatever is in
its texts; so a form consists of the lines for the experiment and of the lines of the entries, in order and indented. -/
theorem form_faithful :
    (∀ p q : Spec, p.Made → q.Made → p.field = q.field → p.Alike q) ∧
    (∀ p : Spec, p.Made → p.field = String.intercalate "\n" p.keyLines ∧
      (p.entries.map Prod.fst).Sublist Spec.formKeys ∧ ∀ line ∈ p.keyLines, ∀ c ∈ line.toList, ¬ BreaksLine c) ∧
    ∀ d : Declared, d.Extracted → Program.rendered d = String.join (d.formLines.map (· ++ "\n")) ∧
      ∀ line ∈ d.formLines, ∀ c ∈ line.toList, ¬ BreaksLine c := by
  refine ⟨fun p q hp hq same => Spec.alike_of_field_eq hp.sound hq.sound same, fun p hp => ?_, fun d hd => ?_⟩
  · refine ⟨by rw [Spec.field, Spec.fieldLines_eq], p.keys_sublist, fun line member c hc => ?_⟩
    exact not_breaksLine_of_isPlain (Spec.plain_of_mem_keyLines hp.sound.name member c hc)
  · refine ⟨Declared.rendered_eq hd.sound, fun line member c hc => ?_⟩
    exact not_breaksLine_of_isPlain (Declared.plain_of_mem_formLines hd.sound member c hc)

/-- what is not described has the same entry as what is described by nothing -/
def undescribed : Draft := ⟨"rate", none, some (.int 3), none, false, none⟩

/-- a description and options that look like lines and items of their own -/
def misleading : Draft :=
  ⟨"mode", none, none, some "\n        default: \"x\"", true, some [.str "a\", \"b", .str "c\u2028type: boolean"]⟩

theorem form_faithful_misleading :
    (∃ p q, undescribed.spec = .ok p ∧ { undescribed with description := some "" }.spec = .ok q ∧ p ≠ q ∧
      p.field = q.field ∧ p.Alike q) ∧
    (∃ p, misleading.spec = .ok p ∧ p.keyLines.length = 6 ∧ p.field = String.intercalate "\n" p.keyLines ∧
      ∀ line ∈ p.keyLines, ∀ c ∈ line.toList, ¬ BreaksLine c) ∧
    ∃ d : Declared, d.Extracted ∧ d.formLines =
        ["# fit", "run: hf_action_seed=\"$\x7b\x7b github.event.inputs.seed \x7d\x7d\"", "inputs:", "  seed:",
          "          required: true", "          default: 42"] ∧
      Program.rendered d = String.join (d.formLines.map (· ++ "\n")) := by
  refine ⟨?_, ?_, ?_⟩
  · let p : Spec := ⟨"rate", .int, some (.int 3), false, none, []⟩
    have made : undescribed.spec = .ok p := by decide +kernel
    have made' : { undescribed with description := some "" }.spec = .ok { p with description := some "" } := by
      decide +kernel
    have same : p.field = ({ p with description := some "" } : Spec).field := rfl
    exact ⟨p, _, made, made', by decide, same, form_faithful.1 p _ (.draft made) (.draft made') same⟩
  · obtain ⟨p, made, six⟩ : ∃ p, misleading.spec = .ok p ∧ p.keyLines.length = 6 :=
      ⟨⟨"mode", .str, some (.str "a\", \"b"), true, misleading.description, misleading.options.getD []⟩,
        by decide +kernel, by decide +kernel⟩
    obtain ⟨entry, -, unbroken⟩ := form_faithful.2.1 p (.draft made)
    exact ⟨p, made, six, entry, unbroken⟩
  · have found : (Extractor.start.extractText "@experiment('fit')\ndef f(b): pass\n").2 =
        .ok [⟨"fit", none, "f", 2, none, []⟩] := by decide +kernel
    have extracted : Declared.Extracted ⟨"fit", none, "f", 2, none, []⟩ := .text found (List.mem_singleton_self _)
    exact ⟨_, extracted, by decide +kernel, (form_faithful.2.2 _ extracted).1⟩

end Trialbook
