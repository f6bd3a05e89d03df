/-
FILE CHANGES: what making directories and putting a file change in a tree, and what they leave.

A tree is looked at by names: at the end of names there is nothing, a directory, or a file (`Node.look?`). To go into a
tree along names fails just when a file stands on the way; else the directories on the way are made, and nothing
changes but what is changed at their end. A path is made part by part, each part being a change of that kind.

Results:
- `Node.within_eq_error`, `Node.within_spec`: when a change at the end of names fails, and what else it does.
- `Files.write_eq_error`, `Files.write_spec`: when a file cannot be put, and what is seen once it is.
- `Files.enter_spec`, `Files.makeAlong_spec`: one part of a path is made, then all of them, unless a file stands where
  one leads (`Files.Opens`); then the parts lead through directories, and all else is as it was (`Files.Led`).
- `Place.followAlong`: parts that lead through directories can be followed to their names.
-/
import Trialbook.Proofs.Places

namespace Trialbook

/-- what can be seen of a node from above -/
inductive Face where
  | directory
  | file (content : Content)
  deriving DecidableEq, Repr

namespace Node

variable {tree tree' : Node} {way more : List String} {name key : String} {entries entries' : List (String × Node)}
  {change : List (String × Node) → Except FileError (List (String × Node))} {content : Content}

def face : Node → Face
  | .directory _ => .directory
  | .file content => .file content

/-- what is seen at the end of names -/
def look? (tree : Node) (way : List String) : Option Face := (tree.at? way).map face

@[simp] theorem look?_nil (tree : Node) : tree.look? [] = some tree.face := by rw [look?, at?_nil, Option.map_some]

theorem look?_file_cons (content : Content) (name : String) (way : List String) :
    (file content).look? (name :: way) = none := rfl

theorem look?_directory_cons (entries : List (String × Node)) (name : String) (way : List String) :
    (directory entries).look? (name :: way) = (entries.lookup name).bind (look? · way) := by
  rw [look?, at?]
  cases entries.lookup name <;> rfl

theorem look?_empty_cons (name : String) (way : List String) : (directory []).look? (name :: way) = none := rfl

theorem look?_eq_directory_iff :
    tree.look? way = some .directory ↔ ∃ entries, tree.at? way = some (.directory entries) := by
  rw [look?, Option.map_eq_some_iff]
  constructor
  · rintro ⟨node, there, seen⟩
    cases node with
    | directory entries => exact ⟨entries, there⟩
    | file content => cases seen
  · rintro ⟨entries, there⟩
    exact ⟨_, there, rfl⟩

theorem look?_eq_file_iff : tree.look? way = some (.file content) ↔ tree.at? way = some (.file content) := by
  rw [look?, Option.map_eq_some_iff]
  constructor
  · rintro ⟨node, there, seen⟩
    cases node with
    | directory entries => cases seen
    | file content' =>
      cases seen
      exact there
  · exact fun there => ⟨_, there, rfl⟩

/-! ## Changes at the end of names -/

theorem lookup_putEntry (name key : String) (node : Node) (entries : List (String × Node)) :
    (putEntry name node entries).lookup key = if key = name then some node else entries.lookup key := by
  induction entries with
  | nil => by_cases same : key = name <;> simp [putEntry, Table.lookup_cons_ne, same]
  | cons head entries ih =>
    obtain ⟨k, n⟩ := head
    by_cases here : k = name
    · subst here
      by_cases same : key = k <;> simp [putEntry, Table.lookup_cons_ne, same]
    · rw [putEntry, if_neg here]
      by_cases same : key = k
      · subst same
        simp [here]
      · rw [Table.lookup_cons_ne same, Table.lookup_cons_ne same, ih]

/-- no file stands at names, nor on the way to them -/
def IsClear (tree : Node) (way : List String) : Prop :=
  ∀ before, before <+: way → ∀ content, tree.look? before ≠ some (.file content)

theorem not_isClear_file (content : Content) (way : List String) : ¬ (file content).IsClear way :=
  fun clear => clear [] List.nil_prefix content rfl

theorem isClear_nil (entries : List (String × Node)) : (directory entries).IsClear [] := by
  intro before start content
  obtain rfl := List.prefix_nil.1 start
  rw [look?_nil]
  exact nofun

theorem isClear_empty (way : List String) : (directory []).IsClear way := by
  intro before _ content
  cases before with
  | nil => exact nofun
  | cons name before => exact nofun

theorem isClear_cons : (directory entries).IsClear (name :: way) ↔
    ((entries.lookup name).getD (.directory [])).IsClear way := by
  have seen (before : List String) (content : Content) :
      (directory entries).look? (name :: before) = some (.file content) ↔
        ((entries.lookup name).getD (.directory [])).look? before = some (.file content) := by
    rw [look?_directory_cons]
    cases entries.lookup name with
    | some inner => rfl
    | none => exact iff_of_false nofun (isClear_empty before before (List.prefix_refl _) content)
  constructor
  · intro clear before start content
    exact mt (seen before content).2 (clear (name :: before) (List.cons_prefix_cons.2 ⟨rfl, start⟩) content)
  · intro clear before start content
    cases before with
    | nil => exact nofun
    | cons key before =>
      obtain ⟨rfl, later⟩ := List.cons_prefix_cons.1 start
      exact mt (seen before content).1 (clear before later content)

/-- a file on the way stops a change -/
theorem within_eq_error (blocked : ¬ tree.IsClear way) : ∃ e, within change way tree = .error e := by
  induction way generalizing tree with
  | nil =>
    cases tree with
    | file content => exact ⟨_, rfl⟩
    | directory entries => exact absurd (isClear_nil entries) blocked
  | cons name way ih =>
    cases tree with
    | file content => exact ⟨_, rfl⟩
    | directory entries =>
      obtain ⟨e, stopped⟩ := ih (mt isClear_cons.2 blocked)
      exact ⟨e, by rw [within, stopped]; rfl⟩

/-- a tree in which directories lead to names and hold given entries there, and which is else as another tree was -/
structure Changed (tree : Node) (way : List String) (entries : List (String × Node)) (tree' : Node) : Prop where
  inside : ∀ more, tree'.look? (way ++ more) = (directory entries).look? more
  outside : ∀ other, ¬ way <+: other → tree'.look? other = if other <+: way then some .directory else tree.look? other

theorem changed_nil (tree : Node) (entries : List (String × Node)) : Changed tree [] entries (directory entries) :=
  ⟨fun _ => rfl, fun _ apart => absurd List.nil_prefix apart⟩

theorem Changed.cons {inner : Node}
    (h : Changed ((entries.lookup name).getD (.directory [])) way entries' inner) :
    Changed (directory entries) (name :: way) entries' (directory (putEntry name inner entries)) where
  inside more := by
    rw [List.cons_append, look?_directory_cons, lookup_putEntry, if_pos rfl]
    exact h.inside more
  outside other apart := by
    cases other with
    | nil => rw [if_pos List.nil_prefix, look?_nil]; rfl
    | cons key other =>
      rw [look?_directory_cons, lookup_putEntry, look?_directory_cons]
      by_cases same : key = name
      · subst same
        have further : ¬ way <+: other := fun start => apart (List.cons_prefix_cons.2 ⟨rfl, start⟩)
        rw [if_pos rfl, Option.bind_some, h.outside other further]
        simp only [List.cons_prefix_cons, true_and]
        split
        next => rfl
        next beyond =>
          cases entries.lookup key with
          | some n => rfl
          | none =>
            cases other with
            | nil => exact absurd List.nil_prefix beyond
            | cons k other => rfl
      · have elsewhere : ¬ key :: other <+: name :: way := fun start => same (List.cons_prefix_cons.1 start).1
        rw [if_neg same, if_neg elsewhere]

/-- where no file stands on the way, the change decides; the directories on the way are made -/
theorem within_spec (change : List (String × Node) → Except FileError (List (String × Node)))
    (clear : tree.IsClear way) :
    ∃ entries, (∀ name more, tree.look? (way ++ name :: more) = (directory entries).look? (name :: more)) ∧
      (∀ e, change entries = .error e → within change way tree = .error e) ∧
      ∀ entries', change entries = .ok entries' → ∃ tree', within change way tree = .ok tree' ∧
        Changed tree way entries' tree' := by
  induction way generalizing tree with
  | nil =>
    cases tree with
    | file content => exact absurd clear (not_isClear_file content [])
    | directory entries =>
      refine ⟨entries, fun _ _ => rfl, fun e refused => ?_, fun entries' changed => ?_⟩
      · rw [within, refused]
        rfl
      · refine ⟨directory entries', ?_, changed_nil _ entries'⟩
        rw [within, changed]
        rfl
  | cons name way ih =>
    cases tree with
    | file content => exact absurd clear (not_isClear_file content _)
    | directory entries =>
      obtain ⟨held, seen, refuse, change⟩ := ih (isClear_cons.1 clear)
      refine ⟨held, fun key more => ?_, fun e refused => ?_, fun entries' changed => ?_⟩
      · rw [← seen, List.cons_append, look?_directory_cons]
        cases entries.lookup name with
        | some inner => rfl
        | none => cases way <;> rfl
      · rw [within, refuse e refused]
        rfl
      · obtain ⟨inner, made, whole⟩ := change entries' changed
        refine ⟨directory (putEntry name inner entries), ?_, whole.cons⟩
        rw [within, made]
        rfl

/-! ## Directories and files -/

/-- entries that differ from others in what a name leads to, which can be seen -/
def Sets (name : String) (face : Face) (entries entries' : List (String × Node)) : Prop :=
  ∀ key more, (directory entries').look? (key :: more) =
    if key :: more = [name] then some face else (directory entries).look? (key :: more)

theorem look?_putEntry (name key : String) (node : Node) (entries : List (String × Node)) (more : List String) :
    (directory (putEntry name node entries)).look? (key :: more) =
      if key = name then node.look? more else (directory entries).look? (key :: more) := by
  rw [look?_directory_cons, lookup_putEntry, look?_directory_cons]
  split <;> rfl

/-- a node in the place of one that leads to as much, which is nothing -/
theorem sets_putEntry {node : Node} (leaf : ∀ key more, node.look? (key :: more) = none)
    (below : ∀ key more, (directory entries).look? (name :: key :: more) = none) :
    Sets name node.face entries (putEntry name node entries) := by
  intro key more
  rw [look?_putEntry]
  by_cases same : key = name
  · subst same
    cases more with
    | nil => simp
    | cons next more => simp [leaf, below]
  · simp [same]

/-- a directory can be made under a name just when no file has it -/
theorem makeEntry_spec (name : String) (entries : List (String × Node)) :
    (∀ content, (directory entries).look? [name] = some (.file content) →
      Files.makeEntry name entries = .error .notADirectory) ∧
    ((∀ content, (directory entries).look? [name] ≠ some (.file content)) →
      ∃ entries', Files.makeEntry name entries = .ok entries' ∧ Sets name .directory entries entries') := by
  simp only [look?_directory_cons, Files.makeEntry]
  cases found : entries.lookup name with
  | none =>
    have below (key : String) (more : List String) : (directory entries).look? (name :: key :: more) = none := by
      rw [look?_directory_cons, found]
      rfl
    refine ⟨nofun, fun _ => ⟨_, rfl, ?_⟩⟩
    exact @sets_putEntry name entries (.directory []) look?_empty_cons below
  | some inner =>
    cases inner with
    | file content => exact ⟨fun _ _ => rfl, fun free => absurd rfl (free content)⟩
    | directory held =>
      refine ⟨nofun, fun _ => ⟨entries, rfl, fun key more => ?_⟩⟩
      split
      next same =>
        obtain ⟨rfl, rfl⟩ := List.cons.inj same
        rw [look?_directory_cons, found]
        rfl
      next => rfl

/-- a file can be put under a name just when no directory has it -/
theorem putFile_spec (name : String) (content : Content) (entries : List (String × Node)) :
    ((directory entries).look? [name] = some .directory → Files.putFile name content entries = .error .isADirectory) ∧
    ((directory entries).look? [name] ≠ some .directory →
      ∃ entries', Files.putFile name content entries = .ok entries' ∧ Sets name (.file content) entries entries') := by
  have put (below : ∀ key more, (directory entries).look? (name :: key :: more) = none) :
      Sets name (.file content) entries (putEntry name (.file content) entries) :=
    sets_putEntry (look?_file_cons content) below
  have below := look?_directory_cons entries name
  simp only [look?_directory_cons entries name, Files.putFile]
  cases found : entries.lookup name with
  | none =>
    rw [found] at below
    exact ⟨nofun, fun _ => ⟨_, rfl, put fun key more => below (key :: more)⟩⟩
  | some inner =>
    rw [found] at below
    cases inner with
    | file held => exact ⟨nofun, fun _ => ⟨_, rfl, put fun key more => below (key :: more)⟩⟩
    | directory held => exact ⟨fun _ => rfl, fun free => absurd rfl free⟩

/-- all that is seen after a change under one name at the end of names -/
theorem Changed.look? {face : Face} (h : Changed tree way entries' tree') (sets : Sets name face entries entries')
    (seen : ∀ name more, tree.look? (way ++ name :: more) = (directory entries).look? (name :: more))
    (other : List String) : tree'.look? other = if other = way ++ [name] then some face
      else if other <+: way then some .directory else tree.look? other := by
  by_cases inside : way <+: other
  · obtain ⟨more, rfl⟩ := inside
    rw [h.inside]
    cases more with
    | nil =>
      have short : way ++ [] ≠ way ++ [name] := by simp
      rw [if_neg short, List.append_nil, if_pos (List.prefix_refl way)]
      rfl
    | cons key more =>
      have beyond : ¬ way ++ key :: more <+: way := fun start => by simpa using start.length_le
      rw [sets, seen, if_neg beyond]
      simp only [List.append_cancel_left_eq]
  · have apart : other ≠ way ++ [name] := fun same => inside ⟨[name], same.symm⟩
    rw [h.outside other inside, if_neg apart]

theorem look?_above {before : List String} (there : tree.look? way = some .directory) (start : before <+: way) :
    tree.look? before = some .directory := by
  obtain ⟨more, rfl⟩ := start
  obtain ⟨entries, there⟩ := look?_eq_directory_iff.1 there
  rw [at?_append] at there
  obtain ⟨node, here, later⟩ := Option.bind_eq_some_iff.1 there
  cases node with
  | directory held => exact look?_eq_directory_iff.2 ⟨held, here⟩
  | file content => cases more <;> cases later

theorem isClear_of_directory (there : tree.look? way = some .directory) : tree.IsClear way := by
  intro before start content seen
  rw [look?_above there start] at seen
  cases seen

end Node

namespace Files

variable {files files' : Files} {way : List String} {name part : String} {content : Content}

theorem write_eq_error (blocked : ¬ files.top.IsClear way ∨ files.top.look? (way ++ [name]) = some .directory) :
    ∃ e, files.write way name content = .error e := by
  have stopped : ∃ e, Node.within (putFile name content) way files.top = .error e := by
    by_cases clear : files.top.IsClear way
    · obtain ⟨held, seen, refuse, -⟩ := Node.within_spec (putFile name content) clear
      have taken := blocked.resolve_left (absurd clear)
      rw [seen] at taken
      exact ⟨_, refuse _ ((Node.putFile_spec name content held).1 taken)⟩
    · exact Node.within_eq_error clear
  obtain ⟨e, stopped⟩ := stopped
  exact ⟨e, by rw [write, stopped]; rfl⟩

/-- a file is put where no file stands on the way and no directory has its name; nothing else changes, but that the
directories on the way are made -/
theorem write_spec (content : Content) (clear : files.top.IsClear way)
    (free : files.top.look? (way ++ [name]) ≠ some .directory) :
    ∃ files', files.write way name content = .ok files' ∧ files'.here = files.here ∧
      ∀ other, files'.top.look? other = if other = way ++ [name] then some (.file content)
        else if other <+: way then some .directory else files.top.look? other := by
  obtain ⟨held, seen, -, change⟩ := Node.within_spec (putFile name content) clear
  rw [seen] at free
  obtain ⟨entries, put, sets⟩ := (Node.putFile_spec name content held).2 free
  obtain ⟨tree, within, changed⟩ := change entries put
  refine ⟨{ files with top := tree }, ?_, rfl, changed.look? sets seen⟩
  rw [write, within]
  rfl

end Files

/-! ## Paths that are made -/

namespace Path

variable {ps : List String} {part : String}

/-- the names on the way after one more part, the last first -/
def turn (way : List String) (part : String) : List String :=
  if isStay part then way else if part = ".." then way.tail else part :: way

/-- the names that parts lead to from the top -/
def along (ps : List String) : List String := (ps.foldl turn []).reverse

theorem along_snoc (ps : List String) (part : String) : along (ps ++ [part]) =
    if isStay part then along ps else if part = ".." then (along ps).dropLast else along ps ++ [part] := by
  rw [along, List.foldl_concat, turn]
  split
  · rfl
  · split
    · rw [along, List.dropLast_reverse]
    · rw [along, List.reverse_cons]

end Path

namespace Files

open Trialbook.Path (along along_snoc)

variable {files files' : Files} {ps : List String} {part : String} {content : Content}

/-- files in which parts lead through directories, and which are else as others were -/
structure Led (files : Files) (ps : List String) (files' : Files) : Prop where
  here : files'.here = files.here
  made : ∀ before, before <+: ps → files'.top.look? (along before) = some .directory
  kept : ∀ other, (∀ before, before <+: ps → other ≠ along before) → files'.top.look? other = files.top.look? other

/-- no file stands where parts lead through -/
def Opens (files : Files) (ps : List String) : Prop :=
  ∀ before, before <+: ps → ∀ content, files.top.look? (along before) ≠ some (.file content)

theorem Opens.of_snoc (h : files.Opens (ps ++ [part])) : files.Opens ps :=
  fun before start => h before (start.trans (List.prefix_append ps [part]))

/-- what is made is no file, and takes the place of none -/
theorem Led.file_iff (led : files.Led ps files') (opens : files.Opens ps) (other : List String) :
    files'.top.look? other = some (.file content) ↔ files.top.look? other = some (.file content) := by
  by_cases again : ∃ before, before <+: ps ∧ other = along before
  · obtain ⟨before, start, rfl⟩ := again
    rw [led.made before start]
    exact iff_of_false nofun (opens before start content)
  · rw [led.kept other fun before start same => again ⟨before, start, same⟩]

/-- directories stay -/
theorem Led.directory_of (led : files.Led ps files') {other : List String}
    (there : files.top.look? other = some .directory) : files'.top.look? other = some .directory := by
  by_cases again : ∃ before, before <+: ps ∧ other = along before
  · obtain ⟨before, start, rfl⟩ := again
    exact led.made before start
  · rw [led.kept other fun before start same => again ⟨before, start, same⟩, there]

/-- one more part of a path makes its directory, if that is missing -/
theorem enter_spec (there : files.top.look? (along ps) = some .directory) (part : String) :
    (∀ content, files.top.look? (along (ps ++ [part])) = some (.file content) →
      ∃ e, enter (files, along ps) part = .error e) ∧
    ((∀ content, files.top.look? (along (ps ++ [part])) ≠ some (.file content)) →
      ∃ files', enter (files, along ps) part = .ok (files', along (ps ++ [part])) ∧ files'.here = files.here ∧
        files'.top.look? (along (ps ++ [part])) = some .directory ∧
        ∀ other, other ≠ along (ps ++ [part]) → files'.top.look? other = files.top.look? other) := by
  rw [along_snoc, enter]
  split_ifs with stays rises
  · exact ⟨fun content seen => by simp [there] at seen, fun _ => ⟨files, rfl, rfl, there, fun _ _ => rfl⟩⟩
  · have above := Node.look?_above there (List.dropLast_prefix (along ps))
    exact ⟨fun content seen => by simp [above] at seen, fun _ => ⟨files, rfl, rfl, above, fun _ _ => rfl⟩⟩
  · obtain ⟨held, seen, refuse, change⟩ := Node.within_spec (makeEntry part) (Node.isClear_of_directory there)
    obtain ⟨refused, made⟩ := Node.makeEntry_spec part held
    rw [seen]
    constructor
    · intro content taken
      exact ⟨_, by rw [refuse _ (refused content taken)]; rfl⟩
    · intro free
      obtain ⟨entries, ok, sets⟩ := made free
      obtain ⟨tree, within, changed⟩ := change entries ok
      have whole := changed.look? sets seen
      refine ⟨{ files with top := tree }, by rw [within]; rfl, rfl, by rw [whole, if_pos rfl], fun other apart => ?_⟩
      rw [whole, if_neg apart]
      split
      next start => exact (Node.look?_above there start).symm
      next => rfl

/-- the parts of a path are made one by one, unless a file stands where one leads -/
theorem makeAlong_spec (top : files.top.look? [] = some .directory) (ps : List String) :
    (¬ files.Opens ps → ∃ e, ps.foldlM enter (files, []) = .error e) ∧
    (files.Opens ps → ∃ files', ps.foldlM enter (files, []) = .ok (files', along ps) ∧ files.Led ps files') := by
  induction ps using List.reverseRecOn with
  | nil =>
    have start (before : List String) (empty : before <+: []) : along before = [] := by
      obtain rfl := List.prefix_nil.1 empty
      rfl
    refine ⟨fun closed => absurd (fun before empty content seen => ?_) closed, fun _ => ⟨files, rfl, rfl, ?_, ?_⟩⟩
    · rw [start before empty, top] at seen
      cases seen
    · intro before empty
      rw [start before empty, top]
    · exact fun _ _ => rfl
  | append_singleton ps part ih =>
    obtain ⟨stop, go⟩ := ih
    have whole : (ps ++ [part]).foldlM enter (files, []) =
        (ps.foldlM enter (files, [])).bind fun r => enter r part := by
      rw [List.foldlM_append]
      simp only [List.foldlM_cons, List.foldlM_nil, bind_pure]
      rfl
    rw [whole]
    by_cases opens : files.Opens ps
    · obtain ⟨files', made, led⟩ := go opens
      rw [made]
      obtain ⟨refuse, goOn⟩ := enter_spec (led.made ps (List.prefix_refl ps)) part
      constructor
      · intro closed
        by_contra passes
        refine closed fun before start content seen => ?_
        rcases List.prefix_concat_iff.1 start with rfl | inner
        · exact passes (refuse content ((led.file_iff opens _).2 seen))
        · exact opens before inner content seen
      · intro opens'
        obtain ⟨files'', ok, here, there, others⟩ :=
          goOn fun content => mt (led.file_iff opens _).1 (opens' _ (List.prefix_refl _) content)
        refine ⟨files'', ok, here.trans led.here, fun before start => ?_, fun other apart => ?_⟩
        · rcases List.prefix_concat_iff.1 start with rfl | inner
          · exact there
          · by_cases again : along before = along (ps ++ [part])
            · rw [again, there]
            · rw [others _ again, led.made before inner]
        · rw [others other (apart _ (List.prefix_refl _))]
          exact led.kept other fun before start => apart before (start.trans (List.prefix_append ps [part]))
    · obtain ⟨e, stopped⟩ := stop opens
      exact ⟨fun _ => ⟨e, by rw [stopped]; rfl⟩, fun opens' => absurd opens'.of_snoc opens⟩

/-- nothing can be made below a file -/
theorem top_of_makeAlong {names : List String} {reached : Files × List String} (root : files.top = .file content)
    (made : ps.foldlM enter (files, names) = .ok reached) : reached.1.top = .file content := by
  refine foldlM_keeps (P := fun reached : Files × List String => reached.1.top = .file content) ?_ root made
  rintro ⟨there, way⟩ part next root ok
  unfold enter at ok
  split_ifs at ok
  · cases ok
    exact root
  · cases ok
    exact root
  · have closed : ¬ there.top.IsClear way := root ▸ Node.not_isClear_file content way
    obtain ⟨e, stopped⟩ := @Node.within_eq_error there.top way (makeEntry part) closed
    simp only [stopped] at ok
    cases ok

end Files

/-! ## Paths that can be followed -/

namespace Place

variable {p : Place} {name : String} {face : Face}

/-- from a place, a name leads further if something stands at it -/
theorem follow_name (coherent : Coherent p.top p.trail) (there : p.top.look? (p.names ++ [name]) = some face)
    (stays : Path.isStay name = false) (rises : name ≠ "..") :
    ∃ q, p.follow name = .ok q ∧ q.top = p.top ∧ Coherent q.top q.trail ∧ q.names = p.names ++ [name] := by
  obtain ⟨node, there, -⟩ := Option.map_eq_some_iff.1 there
  rw [Node.at?_append, at?_names coherent, Option.bind_some] at there
  cases held : p.node with
  | file content => rw [held] at there; cases there
  | directory entries =>
    rw [held, Node.at?] at there
    have found : entries.lookup name = some node := by simpa using there
    refine ⟨{ p with trail := (name, node) :: p.trail }, ?_, rfl, .enter coherent held found, by simp [names]⟩
    exact follow_eq_ok_iff.2 ⟨entries, held, .inr (.inr ⟨stays, rises, node, found, rfl⟩)⟩

/-- parts that lead through directories can be followed, and lead to the names that they turn into -/
theorem followAlong {tree : Node} {ps : List String}
    (led : ∀ before, before <+: ps → tree.look? (Path.along before) = some .directory) :
    ∃ place, ps.foldlM follow ⟨tree, []⟩ = .ok place ∧ place.top = tree ∧ Coherent place.top place.trail ∧
      place.names = Path.along ps := by
  induction ps using List.reverseRecOn with
  | nil => exact ⟨⟨tree, []⟩, rfl, rfl, .start, rfl⟩
  | append_singleton ps part ih =>
    have earlier : ∀ before, before <+: ps → tree.look? (Path.along before) = some .directory :=
      fun before start => led before (start.trans (List.prefix_append ps [part]))
    obtain ⟨place, reached, rfl, coherent, names⟩ := ih earlier
    have next {q : Place} (ok : place.follow part = .ok q) : (ps ++ [part]).foldlM follow ⟨place.top, []⟩ = .ok q := by
      rw [List.foldlM_append, reached]
      change [part].foldlM follow place = _
      rw [List.foldlM_cons, ok]
      rfl
    have here := at?_names coherent
    have there := led _ (List.prefix_refl _)
    obtain ⟨entries, directory⟩ := Node.look?_eq_directory_iff.1 (earlier ps (List.prefix_refl ps))
    rw [← names, here] at directory
    have node := Option.some.inj directory
    rw [Path.along_snoc] at there ⊢
    split_ifs at there ⊢ with stays rises
    · exact ⟨place, next (follow_eq_ok_iff.2 ⟨entries, node, .inl ⟨stays, rfl⟩⟩), rfl, coherent, names⟩
    · have up : place.follow part = .ok { place with trail := place.trail.tail } :=
        follow_eq_ok_iff.2 ⟨entries, node, .inr (.inl ⟨by simpa using stays, rises, rfl⟩)⟩
      refine ⟨_, next up, rfl, coherent.tail, ?_⟩
      rw [← names, Place.names, Place.names, List.map_tail, List.dropLast_reverse]
    · rw [← names] at there
      obtain ⟨q, ok, top, coherent', names'⟩ := follow_name coherent there (by simpa using stays) rises
      exact ⟨q, next ok, top, coherent', by rw [names', names]⟩

end Place

end Trialbook
