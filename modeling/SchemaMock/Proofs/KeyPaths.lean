/-
# Keys that are paths

Keys are joined as URLs are: a key that is no URL is put below a root that it does not have, the
text of the other document is read against it, and what has been put in front is taken away again.
Nothing of this is to be seen where keys and documents are paths of plain names.

* **The words for it.**  A `KeyPath` leads through directories to a file, from the root or from a
  directory that nobody names.  A `RelativePath` takes steps to a file: it stays, goes up, or goes
  down to a name.  `KeyPath.follow` is where one comes to if one takes the steps from the directory
  of the file; going up where nothing is above is staying.
* **The argument.**  In plain texts nothing begins a scheme, a query or a fragment, nothing is
  encoded, and no name is the letter of a drive; so reading such a text against the URL of a file is
  walking (`Url.read?_relative`), and walking is taking the steps (`walk_steps`).
-/
import Mathlib.Data.List.Induction
import SchemaMock.Proofs.Addresses

namespace SchemaMock

/-! ## 1. Paths of plain names -/

/-- A character that has no meaning in a URL but itself. -/
def isPlainChar (c : Char) : Bool := c.isAlphanum || c == '.' || c == '_' || c == '-'

/-- The name of a directory or a file: plain characters, and not one of the two names of dots that
are steps. -/
structure PlainName where
  chars : List Char
  plain : ∀ c ∈ chars, isPlainChar c = true
  ne_nil : chars ≠ []
  ne_dot : chars ≠ ['.']
  ne_dots : chars ≠ ['.', '.']

/-- A step of a relative path. -/
inductive PathStep where
  | stay
  | up
  | down (name : PlainName)

namespace PathStep

/-- A step as it is written. -/
def segment : PathStep → List Char
  | .stay => ['.']
  | .up => ['.', '.']
  | .down name => name.chars

/-- The directories on the way to where one is after a step.  There is nothing above the first. -/
def taken (directories : List PlainName) : PathStep → List PlainName
  | .stay => directories
  | .up => directories.dropLast
  | .down name => directories ++ [name]

end PathStep

/-- A way to a file through directories, from the root or from a directory that nobody names. -/
structure KeyPath where
  rooted : Bool
  directories : List PlainName
  file : PlainName

/-- A way to a file from a directory. -/
structure RelativePath where
  steps : List PathStep
  file : PlainName

namespace RelativePath

/-- The segments of a relative path. -/
def segments (r : RelativePath) : Url.Segments := r.steps.map PathStep.segment ++ [r.file.chars]

/-- A relative path as it is written. -/
def text (r : RelativePath) : String := String.ofList (Text.joinWith '/' r.segments)

/-- A reference to what a fragment tells in the document that the path leads to. -/
def reference (r : RelativePath) : (fragment : Option String) → String
  | none => r.text
  | some fragment => r.text ++ "#" ++ fragment

end RelativePath

namespace KeyPath

/-- The segments of a path. -/
def segments (p : KeyPath) : Url.Segments := p.directories.map PlainName.chars ++ [p.file.chars]

/-- A path as it is written. -/
def text (p : KeyPath) : String :=
  String.ofList (if p.rooted then '/' :: Text.joinWith '/' p.segments
    else Text.joinWith '/' p.segments)

/-- Where a relative path leads from the directory of the file. -/
def follow (p : KeyPath) (r : RelativePath) : KeyPath where
  rooted := p.rooted
  directories := r.steps.foldl PathStep.taken p.directories
  file := r.file

/-- The path to the file itself from its directory, after staying there some times. -/
def own (p : KeyPath) (stays : Nat) : RelativePath := ⟨List.replicate stays .stay, p.file⟩

theorem follow_own (p : KeyPath) (stays : Nat) : p.follow (p.own stays) = p := by
  have hstay : (List.replicate stays PathStep.stay).foldl PathStep.taken p.directories
      = p.directories := by
    induction stays with
    | zero => rfl
    | succ stays ih => simpa [List.replicate_succ, PathStep.taken] using ih
  rw [follow, own, hstay]

end KeyPath

/-! ## 2. Plain texts -/

/-- A plain character, or the slash between names. -/
def isPathChar (c : Char) : Bool := isPlainChar c || c == '/'

theorem isPathChar_of_plain {c : Char} (h : isPlainChar c = true) : isPathChar c = true :=
  Bool.or_eq_true_iff.mpr (.inl h)

theorem ne_slash_of_plain {c : Char} (h : isPlainChar c = true) : c ≠ '/' := by
  rintro rfl
  exact absurd h (by decide)

theorem isPathChar_bounds {c : Char} (h : isPathChar c = true) : 32 < c.toNat ∧ c.toNat < 127 := by
  have hbetween : ∀ {first last : Char}, first.val ≤ c.val ∧ c.val ≤ last.val →
      32 < first.toNat → last.toNat < 127 → 32 < c.toNat ∧ c.toNat < 127 :=
    fun ⟨hlow, hhigh⟩ hfirst hlast =>
      ⟨Nat.lt_of_lt_of_le hfirst (UInt32.le_iff_toNat_le.mp hlow),
        Nat.lt_of_le_of_lt (UInt32.le_iff_toNat_le.mp hhigh) hlast⟩
  have hends : ∀ {first last : Char}, (decide (c.val ≥ first.val) && decide (c.val ≤ last.val)) →
      first.val ≤ c.val ∧ c.val ≤ last.val := fun hboth =>
    (Bool.and_eq_true_iff.mp hboth).imp of_decide_eq_true of_decide_eq_true
  simp only [isPathChar, isPlainChar, Char.isAlphanum, Bool.or_eq_true, beq_iff_eq] at h
  rcases h with ((((halpha | hdigit) | rfl) | rfl) | rfl) | rfl
  · rcases Bool.or_eq_true_iff.mp halpha with hupper | hlower
    · exact hbetween (of_decide_eq_true hupper) (by decide : 32 < 'A'.toNat)
        (by decide : 'Z'.toNat < 127)
    · exact hbetween (hends hlower) (by decide : 32 < 'a'.toNat) (by decide : 'z'.toNat < 127)
  · exact hbetween (hends hdigit) (by decide : 32 < '0'.toNat) (by decide : '9'.toNat < 127)
  all_goals decide

/-- A character that is not on the list stands in no text on which it counts. -/
theorem notMem_of_isPathChar {cs : List Char} (h : ∀ c ∈ cs, isPathChar c = true) {d : Char}
    (hd : isPathChar d = false) : d ∉ cs := by
  intro hmem
  rw [h d hmem] at hd
  cases hd

namespace Url

variable {cs : List Char}

theorem cleanText_of_path (h : ∀ c ∈ cs, isPathChar c = true) : cleanText cs = cs :=
  cleanText_of_graphic fun c hc => (isPathChar_bounds (h c hc)).1

theorem splitScheme?_of_path (h : ∀ c ∈ cs, isPathChar c = true) : splitScheme? cs = none := by
  unfold splitScheme?
  split
  · next hdrop =>
    have hmem : ':' ∈ cs := (List.dropWhile_sublist _).subset (hdrop ▸ List.mem_cons_self)
    exact absurd hmem (notMem_of_isPathChar h (by decide))
  · rfl

theorem body_of_path (h : ∀ c ∈ cs, isPathChar c = true) : Body.ofText cs = ⟨cs, none, none⟩ := by
  have hmark : Text.splitFirst '#' cs = (cs, none) :=
    Text.splitFirst_of_notMem (notMem_of_isPathChar h (by decide))
  have hquery : Text.splitFirst '?' cs = (cs, none) :=
    Text.splitFirst_of_notMem (notMem_of_isPathChar h (by decide))
  simp only [Body.ofText, hmark, hquery]

theorem inPathSet_of_path {c : Char} (h : isPathChar c = true) : inPathSet c = false := by
  have hunlisted : ∀ {listed : List Char}, listed.any isPathChar = false →
      listed.contains c = false := by
    intro listed hlisted
    rw [List.contains_eq_mem, decide_eq_false_iff_not]
    intro hmem
    rw [List.any_eq_true.mpr ⟨c, hmem, h⟩] at hlisted
    cases hlisted
  have hcontrol : isControl c = false := by
    obtain ⟨hlow, hhigh⟩ := isPathChar_bounds h
    simp [isControl]
    omega
  rw [inPathSet, inFragmentSet, hcontrol, hunlisted rfl, hunlisted rfl]
  rfl

theorem isSlash_of_plain {c : Char} (h : isPlainChar c = true) : isSlash c = false := by
  have hback : c ≠ '\\' := by
    rintro rfl
    exact absurd h (by decide)
  simp [isSlash, ne_slash_of_plain h, hback]

theorem isDrive_of_path (h : ∀ c ∈ cs, isPathChar c = true) : Segments.isDrive cs = false := by
  unfold Segments.isDrive
  split
  · next a b =>
    have hb := h b (by simp)
    have hcolon : b ≠ ':' := by
      rintro rfl
      exact absurd hb (by decide)
    have hbar : b ≠ '|' := by
      rintro rfl
      exact absurd hb (by decide)
    simp [hcolon, hbar]
  · rfl

theorem isPlainDrive_of_path (h : ∀ c ∈ cs, isPathChar c = true) :
    Segments.isPlainDrive cs = false := by
  have hdrive := isDrive_of_path h
  unfold Segments.isDrive at hdrive
  unfold Segments.isPlainDrive
  split
  · simp_all
  · rfl

/-- Dots alone are counted as steps. -/
theorem eq_replicate_of_dots? (h : ∀ c ∈ cs, isPathChar c = true) {n : Nat}
    (hdots : Segments.dots? cs = some n) : cs = List.replicate n '.' := by
  induction cs generalizing n with
  | nil =>
    cases hdots
    rfl
  | cons c rest ih =>
    obtain ⟨hc, hrest⟩ := List.forall_mem_cons.mp h
    have hpercent : c ≠ '%' := by
      rintro rfl
      exact absurd hc (by decide)
    by_cases hdot : c = '.'
    · subst hdot
      obtain ⟨m, hm, rfl⟩ := Option.map_eq_some_iff.mp hdots
      rw [ih hrest hm, List.replicate_succ]
    · unfold Segments.dots? at hdots
      split at hdots
      all_goals simp_all

end Url

/-! ## 3. Plain segments -/

theorem PlainName.isPathChar (name : PlainName) : ∀ c ∈ name.chars, isPathChar c = true :=
  fun c hc => isPathChar_of_plain (name.plain c hc)

/-- A name is no step that is written with dots. -/
theorem PlainName.dots?_ne (name : PlainName) :
    Url.Segments.dots? name.chars ≠ some 1 ∧ Url.Segments.dots? name.chars ≠ some 2 :=
  ⟨fun h => name.ne_dot (Url.eq_replicate_of_dots? name.isPathChar h),
    fun h => name.ne_dots (Url.eq_replicate_of_dots? name.isPathChar h)⟩

/-- Segments of plain characters, none of them empty. -/
structure Url.Segments.Plain (segments : Url.Segments) : Prop where
  ne_nil : segments ≠ []
  segment_ne_nil : ∀ segment ∈ segments, segment ≠ []
  plain : ∀ segment ∈ segments, ∀ c ∈ segment, isPlainChar c = true

theorem RelativePath.plain_segments (r : RelativePath) : r.segments.Plain where
  ne_nil := by simp [segments]
  segment_ne_nil := by
    refine List.forall_mem_append.mpr ⟨List.forall_mem_map.mpr fun step _ => ?_,
      List.forall_mem_singleton.mpr r.file.ne_nil⟩
    cases step with
    | stay => exact List.cons_ne_nil _ _
    | up => exact List.cons_ne_nil _ _
    | down name => exact name.ne_nil
  plain := by
    refine List.forall_mem_append.mpr ⟨List.forall_mem_map.mpr fun step _ => ?_,
      List.forall_mem_singleton.mpr r.file.plain⟩
    cases step with
    | stay => exact List.all_eq_true.mp rfl
    | up => exact List.all_eq_true.mp rfl
    | down name => exact name.plain

namespace KeyPath

/-- The same names as a relative path that goes down only. -/
def downward (p : KeyPath) : RelativePath := ⟨p.directories.map .down, p.file⟩

theorem segments_downward (p : KeyPath) : p.downward.segments = p.segments := by
  rw [RelativePath.segments, downward, List.map_map]
  rfl

theorem plain_segments (p : KeyPath) : p.segments.Plain :=
  p.segments_downward ▸ p.downward.plain_segments

theorem foldl_taken_downward (p : KeyPath) :
    p.downward.steps.foldl PathStep.taken [] = p.directories := by
  have hdown : ∀ (names taken : List PlainName),
      (names.map PathStep.down).foldl PathStep.taken taken = taken ++ names := by
    intro names
    induction names with
    | nil => exact fun taken => (List.append_nil taken).symm
    | cons name rest ih =>
      intro taken
      rw [List.map_cons, List.foldl_cons, ih, PathStep.taken, List.append_assoc,
        List.singleton_append]
  exact hdown p.directories []

end KeyPath

namespace Url.Segments.Plain

variable {segments : Segments}

theorem isPathChar (h : segments.Plain) :
    ∀ c ∈ Text.joinWith '/' segments, isPathChar c = true := by
  intro c hc
  rcases Text.mem_joinWith hc with rfl | ⟨segment, hsegment, hc⟩
  · decide
  · exact isPathChar_of_plain (h.plain segment hsegment c hc)

/-- The text begins with a plain character. -/
theorem exists_cons (h : segments.Plain) :
    ∃ c rest, Text.joinWith '/' segments = c :: rest ∧ isPlainChar c = true := by
  obtain ⟨first, others, rfl⟩ := List.exists_cons_of_ne_nil h.ne_nil
  obtain ⟨c, rest, hfirst⟩ :=
    List.exists_cons_of_ne_nil (h.segment_ne_nil first List.mem_cons_self)
  have hc := h.plain first List.mem_cons_self c (hfirst ▸ List.mem_cons_self)
  exact ⟨c, rest ++ others.flatMap ('/' :: ·), by rw [Text.joinWith_cons, hfirst]; rfl, hc⟩

/-- The text is cut into the segments again, and nothing in them is encoded. -/
theorem segmentsOf_eq (h : segments.Plain) :
    segmentsOf .file (Text.joinWith '/' segments) = segments := by
  have hpath : ∀ segment ∈ segments, ∀ c ∈ segment, inPathSet c = false :=
    fun segment hsegment c hc =>
      inPathSet_of_path (isPathChar_of_plain (h.plain segment hsegment c hc))
  have hslash : ∀ segment ∈ segments, ∀ c ∈ segment, isSlash c = false :=
    fun segment hsegment c hc => isSlash_of_plain (h.plain segment hsegment c hc)
  exact segmentsOf_joinWith h.ne_nil hpath hslash

theorem trimFront_eq (h : segments.Plain) : segments.trimFront = segments := by
  obtain ⟨first, rest, rfl⟩ := List.exists_cons_of_ne_nil h.ne_nil
  exact trimFront_cons (h.segment_ne_nil first List.mem_cons_self)

end Url.Segments.Plain

/-- A name is written as it is wherever one walks. -/
theorem PlainName.written_eq (name : PlainName) (directories : Url.Segments) :
    Url.Segments.written true directories name.chars = name.chars := by
  have hdrive := Url.isDrive_of_path name.isPathChar
  simp [Url.Segments.written, hdrive]

/-- Going up leaves the last directory, if there is one. -/
theorem goUp_reverse (directories : List PlainName) :
    Url.Segments.goUp (directories.map PlainName.chars).reverse
      = (directories.dropLast.map PlainName.chars).reverse := by
  induction directories using List.reverseRecOn with
  | nil => rfl
  | append_singleton front last =>
    have hdrive := Url.isDrive_of_path last.isPathChar
    simp [Url.Segments.goUp, hdrive]

/-- **Walking along a relative path is taking its steps.** -/
theorem walk_steps (file : PlainName) (steps : List PathStep) (directories : List PlainName) :
    Url.Segments.walk true (directories.map PlainName.chars).reverse
        (steps.map PathStep.segment ++ [file.chars])
      = (steps.foldl PathStep.taken directories).map PlainName.chars ++ [file.chars] := by
  induction steps generalizing directories with
  | nil =>
    obtain ⟨hstay, hup⟩ := file.dots?_ne
    rw [List.map_nil, List.nil_append, Url.Segments.walk]
    split
    · next h => exact absurd h hstay
    · next h => exact absurd h hup
    · rw [file.written_eq, List.reverse_reverse, List.foldl_nil]
  | cons step steps ih =>
    have hne : steps.map PathStep.segment ++ [file.chars] ≠ [] := by simp
    rw [List.map_cons, List.cons_append, Url.Segments.walk, List.foldl_cons, ← ih]
    · cases step with
      | stay => rfl
      | up =>
        have hdots : Url.Segments.dots? PathStep.up.segment = some 2 := rfl
        rw [hdots, goUp_reverse]
        rfl
      | down name =>
        obtain ⟨hstay, hup⟩ := name.dots?_ne
        rw [PathStep.segment]
        split
        · next h => exact absurd h hstay
        · next h => exact absurd h hup
        · rw [name.written_eq, PathStep.taken]
          simp
    · exact hne

/-! ## 4. Reading paths as URLs -/

namespace Url

/-- The URL of a file of this machine. -/
def fileAt (segments : Segments) : Url :=
  ⟨fileScheme, some ⟨[], [], none⟩, .path segments, none, none⟩

variable {cs : List Char}

/-- A text of names and slashes is no URL of its own. -/
theorem read?_none_of_path (h : ∀ c ∈ cs, isPathChar c = true) : read? none cs = none := by
  simp only [read?, cleanText_of_path h, splitScheme?_of_path h]

theorem read?_fileAt (segments : Segments) (h : ∀ c ∈ cs, isPathChar c = true) :
    read? (some (fileAt segments)) cs = file? (some (fileAt segments)) ⟨cs, none, none⟩ := by
  have hmark : cs.head? ≠ some '#' := fun hhead =>
    notMem_of_isPathChar h (by decide) (List.mem_of_mem_head? hhead)
  have hkind : (fileAt segments).kind = .file := rfl
  have hpath : (fileAt segments).isRootless = false := rfl
  simp only [read?, cleanText_of_path h, splitScheme?_of_path h, body_of_path h]
  rw [if_neg hmark, hpath, if_neg Bool.false_ne_true, if_pos hkind]

theorem startsWithDrive_of_path (h : ∀ c ∈ cs, isPathChar c = true) : startsWithDrive cs = false :=
  isDrive_of_path fun c hc => h c ((List.takeWhile_sublist _).subset hc)

/-- **A path that does not begin at the root is read from the directory of the base.** -/
theorem read?_relative (base : Segments) {segments : Segments} (h : segments.Plain) :
    read? (some (fileAt base)) (Text.joinWith '/' segments)
      = some (fileAt
          (pathFrom .file (directoriesOf .file base) (Text.joinWith '/' segments))) := by
  have hpath := h.isPathChar
  obtain ⟨c, rest, htext, hc⟩ := h.exists_cons
  rw [htext] at hpath ⊢
  rw [read?_fileAt base hpath, file?]
  simp only [isSlash_of_plain hc, startsWithDrive_of_path hpath, Bool.false_eq_true, if_false]
  rfl

/-- **A path that begins at the root is read from the root.** -/
theorem read?_rooted {segments : Segments} (h : segments.Plain) :
    read? (some (fileAt [[]])) ('/' :: Text.joinWith '/' segments)
      = some (fileAt (pathFrom .file [] (Text.joinWith '/' segments))) := by
  have hpath := h.isPathChar
  have hrooted : ∀ c ∈ '/' :: Text.joinWith '/' segments, isPathChar c = true :=
    List.forall_mem_cons.mpr ⟨by decide, hpath⟩
  obtain ⟨c, rest, htext, hc⟩ := h.exists_cons
  rw [read?_fileAt _ hrooted]
  rw [htext] at hpath ⊢
  have hslash : isSlash '/' = true := rfl
  have hroot : beginsWithDrive (fileAt [[]]).segments = false := rfl
  simp only [file?, file?.fromRoot, hslash, if_true, isSlash_of_plain hc, Bool.false_eq_true,
    if_false, startsWithDrive_of_path hpath, hroot]
  rfl

end Url

/-! ## 5. Joining -/

/-- What a relative path leads to from the directory that some names lead to. -/
theorem pathFrom_segments (directories : List PlainName) (r : RelativePath) :
    Url.pathFrom .file (directories.map PlainName.chars).reverse (Text.joinWith '/' r.segments)
      = (r.steps.foldl PathStep.taken directories).map PlainName.chars ++ [r.file.chars] := by
  have hplain := (KeyPath.mk false (r.steps.foldl PathStep.taken directories) r.file).plain_segments
  have hfile : (Url.SchemeKind.file == .file) = true := rfl
  rw [Url.pathFrom, r.plain_segments.segmentsOf_eq, RelativePath.segments, hfile, walk_steps,
    if_pos rfl]
  exact hplain.trimFront_eq

namespace KeyPath

/-- The characters of a path as it is written. -/
theorem toList_text (p : KeyPath) :
    p.text.toList = if p.rooted then '/' :: Text.joinWith '/' p.segments
      else Text.joinWith '/' p.segments := String.toList_ofList

theorem isPathChar_text (p : KeyPath) : ∀ c ∈ p.text.toList, isPathChar c = true := by
  rw [toList_text]
  split
  · exact List.forall_mem_cons.mpr ⟨by decide, p.plain_segments.isPathChar⟩
  · exact p.plain_segments.isPathChar

theorem head?_text (p : KeyPath) : p.text.toList.head? = some '/' ↔ p.rooted = true := by
  rw [toList_text]
  split
  · next h => simp [h]
  · next h =>
    obtain ⟨c, rest, htext, hc⟩ := p.plain_segments.exists_cons
    simp [h, htext, ne_slash_of_plain hc]

/-- A path is read below the root of the files, rooted or not. -/
theorem read?_text (p : KeyPath) :
    Url.read? (some DocumentKey.filesRoot) p.text.toList = some (Url.fileAt p.segments) := by
  have hroot : DocumentKey.filesRoot = Url.fileAt [[]] := rfl
  have hdirectories : Url.directoriesOf .file [[]] = [] := rfl
  have hpath : Url.pathFrom .file [] (Text.joinWith '/' p.segments) = p.segments := by
    have hwalk := pathFrom_segments [] p.downward
    rwa [segments_downward, foldl_taken_downward] at hwalk
  rw [hroot, toList_text]
  split
  · rw [Url.read?_rooted p.plain_segments, hpath]
  · rw [Url.read?_relative _ p.plain_segments, hdirectories, hpath]

theorem directoriesOf_segments (p : KeyPath) :
    Url.directoriesOf .file p.segments = (p.directories.map PlainName.chars).reverse := by
  have hdrive := Url.isPlainDrive_of_path p.file.isPathChar
  simp [Url.directoriesOf, segments, hdrive]

/-- **Joining a key and a relative path is following the path.** -/
theorem join_text (p : KeyPath) (r : RelativePath) :
    DocumentKey.join p.text r.text = (p.follow r).text := by
  have hread : Url.read? (some (Url.fileAt p.segments)) r.text.toList
      = some (Url.fileAt (p.follow r).segments) := by
    rw [RelativePath.text, String.toList_ofList, Url.read?_relative _ r.plain_segments,
      directoriesOf_segments, pathFrom_segments]
    rfl
  have hrender : DocumentKey.pathText (Url.fileAt (p.follow r).segments)
      = '/' :: Text.joinWith '/' (p.follow r).segments :=
    Url.Segments.render_eq_joinWith (p.follow r).plain_segments.ne_nil
  have hdrop : ('/' :: Text.joinWith '/' (p.follow r).segments).dropWhile (· = '/')
      = Text.joinWith '/' (p.follow r).segments := by
    obtain ⟨c, rest, htext, hc⟩ := (p.follow r).plain_segments.exists_cons
    simp [htext, ne_slash_of_plain hc]
  rw [DocumentKey.join, DocumentKey.joinChars, Url.read?_none_of_path p.isPathChar_text,
    p.read?_text]
  simp only [Option.bind_some, hread, hrender, head?_text, hdrop]
  rfl

-- one more step up than there are directories
example : DocumentKey.join "/specs/api.yaml" "../../common/./pet.yaml" = "/common/pet.yaml" := by
  decide

end KeyPath

/-! ## 6. References along paths -/

namespace Reference

/-- The document and the segments of a reference along a path. -/
theorem read_reference (p : KeyPath) (r : RelativePath) (fragment : Option String) :
    (read (r.reference fragment) p.text).document p.text = (p.follow r).text ∧
      (read (r.reference fragment) p.text).segments = Pointer.split (fragment.getD "") := by
  have hpath : ∀ c ∈ r.text.toList, isPathChar c = true := by
    rw [RelativePath.text, String.toList_ofList]
    exact r.plain_segments.isPathChar
  have hmark : '#' ∉ r.text.toList := notMem_of_isPathChar hpath (by decide)
  have hne : r.text.toList.isEmpty = false := by
    obtain ⟨c, rest, htext, -⟩ := r.plain_segments.exists_cons
    rw [RelativePath.text, String.toList_ofList, htext]
    rfl
  have hsplit : Text.splitFirst '#' (r.reference fragment).toList
      = (r.text.toList, fragment.map String.toList) := by
    cases fragment with
    | none => exact Text.splitFirst_of_notMem hmark
    | some fragment =>
      have htext : (r.reference (some fragment)).toList
          = r.text.toList ++ '#' :: fragment.toList := by
        simp [RelativePath.reference, String.toList_append]
      rw [htext, Text.splitFirst_append _ hmark]
      rfl
  have hfragment : String.ofList ((fragment.map String.toList).getD []) = fragment.getD "" := by
    cases fragment with
    | none => rfl
    | some fragment => exact String.ofList_toList
  rw [document, read, hsplit]
  simp only [hne, hfragment, Bool.false_eq_true, if_false, Option.getD_some, String.ofList_toList,
    KeyPath.join_text, and_self]

end Reference

/-- **Joining keys resolves paths.**  For a key that is a path of plain names, rooted or not, and a
document that is told by names and dots, the joined key is the path that one comes to by taking the
steps from the directory of the key: it has plain names only, and is rooted exactly if the key is.
A reference of a document to its own file, with steps that stay in front of it or without, leads to
the document itself, and its address is that of the local reference with the same fragment. -/
theorem joining_resolves_paths (p : KeyPath) (r : RelativePath) :
    DocumentKey.join p.text r.text = (p.follow r).text ∧
    ((DocumentKey.join p.text r.text).toList.head? = some '/' ↔
      p.text.toList.head? = some '/') ∧
    ∀ (stays : Nat) (fragment : Option String),
      (Reference.read ((p.own stays).reference fragment) p.text).document p.text = p.text ∧
      (Reference.read ((p.own stays).reference fragment) p.text).address p.text
        = (Reference.read ("#" ++ fragment.getD "") p.text).address p.text := by
  refine ⟨p.join_text r, ?_, fun stays fragment => ?_⟩
  · rw [p.join_text r, KeyPath.head?_text, KeyPath.head?_text]
    rfl
  · obtain ⟨hdocument, hsegments⟩ := Reference.read_reference p (p.own stays) fragment
    rw [p.follow_own] at hdocument
    have hmarked : ("#" ++ fragment.getD "").toList = '#' :: (fragment.getD "").toList :=
      String.toList_append
    obtain ⟨hlocal, hsegments'⟩ := Reference.read_local hmarked p.text
    have hlocalDocument : (Reference.read ("#" ++ fragment.getD "") p.text).document p.text
        = p.text := by
      rw [Reference.document, hlocal, Option.getD_none]
    refine ⟨hdocument, ?_⟩
    rw [Reference.address, Reference.address, hdocument, hsegments, hlocalDocument, hsegments',
      String.ofList_toList]

end SchemaMock
