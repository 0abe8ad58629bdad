import TextChunking.Ingest.Service
import TextChunking.Proofs.Ingest.Selection
/-!
# The greatest size of a file

The greatest size is set in mebibytes and held as a 64-bit word of bytes, which wraps around where the bytes do not fit
(`Discovery.bytesOfMb_eq`). More files are found the more bytes are allowed (`Discovery.files_of_isNarrower`).
**Theorem** (`Discovery.maxFileSize_spec`): a file is left out for its size exactly if it is larger than the setting
says, as long as the bytes of the setting fit a word; if they do not, this holds for the files that are no larger than
what is left of the setting, and for no others. And a file that is found is found with every setting of which as much
is left, but not always with one of which less is left.
-/

namespace TextChunking

namespace Discovery

variable {discovery other : Discovery} {tree : Tree} {path : Path} {name : String} {settings : InputSettings}
  {size megabytes : Nat} {found : List Path}

/-! ### Mebibytes in a word -/

/-- The bytes of a mebibyte. -/
def mebibyte : Nat := 1024 * 1024

/-- The first number of mebibytes whose bytes do not fit a word. -/
def mebibyteLimit : Nat := wordLimit / mebibyte

/-- A megabyte is not zero, so that one can divide by it. -/
theorem mebibyte_pos : 0 < mebibyte := by decide

/-- The limit of megabytes is where their product with a megabyte first wraps around. -/
theorem mebibyteLimit_mul : mebibyteLimit * mebibyte = wordLimit := by decide

/-- The product is a word exactly below that limit. -/
theorem mul_mebibyte_lt_wordLimit_iff : megabytes * mebibyte < wordLimit ↔ megabytes < mebibyteLimit := by
  rw [← mebibyteLimit_mul, Nat.mul_lt_mul_right mebibyte_pos]

/-- A number of mebibytes wraps around as its bytes do. -/
theorem bytesOfMb_eq (megabytes : Nat) : bytesOfMb megabytes = megabytes % mebibyteLimit * mebibyte := by
  rw [bytesOfMb, Nat.mul_assoc, ← mebibyteLimit_mul]
  exact Nat.mul_mod_mul_right mebibyte megabytes mebibyteLimit

/-- Settings give a search exactly if all their patterns can be read; it has these, and the product of the size
limit, reduced to a word. -/
theorem ofSettings_eq_ok_iff : ofSettings settings = .ok discovery ↔
    readPatterns .included settings.includePatterns = .ok discovery.included ∧
      readPatterns .excluded settings.excludePatterns = .ok discovery.excluded ∧
      bytesOfMb settings.maxFileSizeMb = discovery.maxBytes := by
  obtain ⟨included, excluded, maxBytes⟩ := discovery
  cases hincluded : readPatterns .included settings.includePatterns <;>
    cases hexcluded : readPatterns .excluded settings.excludePatterns <;>
    simp [ofSettings, hincluded, hexcluded, bind, Except.bind]

/-! ### The test of the size -/

/-- A size is one more reason to leave a file out. -/
theorem selects_some (discovery : Discovery) (path : Path) (name : String) (size : Nat) :
    discovery.selects path name (some size) = (decide (size ≤ discovery.maxBytes) &&
      discovery.selects path name none) := by
  simp [selects, Bool.and_assoc]

/-- A file that is not left out for its patterns is left out for its size exactly if it is larger than the setting
says, unless the setting wraps around to less than the file. -/
theorem selects_eq_false_iff_iff (hmax : bytesOfMb megabytes = discovery.maxBytes) (hsize : size < wordLimit)
    (hpatterns : discovery.selects path name none = true) :
    (discovery.selects path name (some size) = false ↔ megabytes * mebibyte < size) ↔
      megabytes < mebibyteLimit ∨ size ≤ megabytes % mebibyteLimit * mebibyte := by
  rw [selects_some, hpatterns, Bool.and_true, decide_eq_false_iff_not, Nat.not_le, ← hmax, ← bytesOfMb_eq]
  rcases Nat.lt_or_ge megabytes mebibyteLimit with hlt | hge
  · rw [bytesOfMb_eq, Nat.mod_eq_of_lt hlt]
    exact iff_of_true Iff.rfl (.inl hlt)
  · -- the setting holds all words, so that the file must not be left out
    have hall : ¬ megabytes * mebibyte < size := fun hlt =>
      absurd (mul_mebibyte_lt_wordLimit_iff.mp (hlt.trans hsize)) (Nat.not_lt.mpr hge)
    simp [hall, Nat.not_lt.mpr hge]

/-! ### Greater limits -/

/-- The same patterns with a limit that is no greater. -/
structure IsNarrower (discovery other : Discovery) : Prop where
  included_eq : other.included = discovery.included
  excluded_eq : other.excluded = discovery.excluded
  maxBytes_le : discovery.maxBytes ≤ other.maxBytes

/-- A greater limit does not change which directories are entered, for the limit is one of files. -/
theorem IsNarrower.enters_eq (h : discovery.IsNarrower other) (path : Path) (name : String) :
    other.enters path name = discovery.enters path name := by
  rw [enters, enters, excludes, excludes, h.excluded_eq]

/-- A file that is selected under a limit is selected under a greater one. -/
theorem IsNarrower.selects_eq_true (h : discovery.IsNarrower other) {size : Option Nat}
    (hselects : discovery.selects path name size = true) : other.selects path name size = true := by
  have hpatterns : other.selects path name none = discovery.selects path name none := by
    rw [selects, selects, includes, includes, excludes, excludes, h.included_eq, h.excluded_eq]
    rfl
  cases size with
  | none => rwa [hpatterns]
  | some size =>
    rw [selects_some, Bool.and_eq_true, decide_eq_true_iff] at hselects ⊢
    exact ⟨hselects.1.trans h.maxBytes_le, hpatterns.trans hselects.2⟩

mutual

/-- With a greater limit no file at or below an entry is lost. -/
theorem foundAt_sublist (h : discovery.IsNarrower other) (tree : Tree) (root : Path) (name : String) :
    ∀ node : Node, (discovery.foundAt tree root name node).Sublist (other.foundAt tree root name node)
  | .file id => by
    rw [foundAt_file, foundAt_file]
    split
    · rename_i hselects
      rw [if_pos (h.selects_eq_true hselects)]
    · exact List.nil_sublist _
  | .directory inner => by
    rw [foundAt_directory, foundAt_directory, h.enters_eq]
    split
    · exact foundIn_sublist h tree (root.join name) inner
    · exact .slnil
  | .link target => by rw [foundAt_link, foundAt_link]

/-- With a greater limit no file below a directory is lost. -/
theorem foundIn_sublist (h : discovery.IsNarrower other) (tree : Tree) (root : Path) :
    ∀ entries : List (String × Node),
      (discovery.foundIn tree root entries).Sublist (other.foundIn tree root entries)
  | [] => .slnil
  | (name, node) :: rest => by
    rw [foundIn_cons, foundIn_cons]
    exact (foundAt_sublist h tree root name node).append (foundIn_sublist h tree root rest)

end

/-- An input that is searched under a limit is searched under a greater one, and no file is lost: each is found as
often, and maybe more are. -/
theorem filesOf_of_isNarrower (h : discovery.IsNarrower other) {first : Reported (List Path)}
    (hfirst : discovery.filesOf tree path = .ok first) :
    ∃ more, other.filesOf tree path = .ok more ∧ first.result.Subperm more.result := by
  rw [filesOf] at hfirst ⊢
  cases hfile : tree.isFile path with
  | true =>
    rw [hfile] at hfirst
    cases hfirst
    exact ⟨_, rfl, List.Subperm.refl _⟩
  | false =>
    rw [hfile] at hfirst
    cases hentries : tree.entries? path with
    | none =>
      rw [hentries] at hfirst
      cases hfirst
    | some entries =>
      rw [hentries] at hfirst
      cases hfirst
      refine ⟨_, rfl, ?_⟩
      cases hlist : tree.faultBelow? .list path with
      | some fault =>
        rw [result_filesBelow_of_fault hlist]
        exact List.nil_subperm
      | none =>
        rw [result_filesBelow hlist, result_filesBelow hlist]
        have hfound := (foundIn_sublist h tree path entries).subperm
        exact ((List.mergeSort_perm _ _).subperm.trans hfound).trans (List.mergeSort_perm _ _).symm.subperm

/-- With a greater limit no file is lost. -/
theorem files_of_isNarrower (h : discovery.IsNarrower other) {paths : List Path}
    (hfound : (discovery.files tree paths).result = .ok found) :
    ∃ more, (other.files tree paths).result = .ok more ∧ found.Subperm more := by
  induction paths generalizing found with
  | nil =>
    cases hfound
    exact ⟨[], rfl, List.Subperm.refl _⟩
  | cons path rest ih =>
    cases hfirst : discovery.filesOf tree path with
    | error fault =>
      rw [files, hfirst] at hfound
      cases hfound
    | ok first =>
      rw [files_cons_of_ok hfirst] at hfound
      obtain ⟨later, hlater, rfl⟩ : ∃ later, (discovery.files tree rest).result = .ok later ∧
          first.result ++ later = found := by
        cases hrest : (discovery.files tree rest).result with
        | error fault =>
          rw [hrest] at hfound
          cases hfound
        | ok later =>
          rw [hrest] at hfound
          exact ⟨later, rfl, Except.ok.inj hfound⟩
      obtain ⟨others, hothers, hsub⟩ := filesOf_of_isNarrower h hfirst
      obtain ⟨more, hmore, hrest⟩ := ih hlater
      refine ⟨others.result ++ more, ?_, hsub.append hrest⟩
      rw [files_cons_of_ok hothers, hmore]
      rfl

/-! ### The setting -/

/-- A file of the greatest size is lost with a smaller limit. -/
theorem exists_size_lost (hmax : bytesOfMb megabytes = discovery.maxBytes) (hlt : other.maxBytes < discovery.maxBytes)
    (hpatterns : discovery.selects path name none = true) : ∃ size < wordLimit,
      discovery.selects path name (some size) = true ∧ other.selects path name (some size) = false := by
  refine ⟨discovery.maxBytes, hmax ▸ Nat.mod_lt _ (by decide), ?_, ?_⟩
  · rw [selects_some, hpatterns, decide_eq_true le_rfl, Bool.and_true]
  · rw [selects_some, decide_eq_false (Nat.not_le.mpr hlt), Bool.false_and]

/-- **The greatest size.** The bytes of the setting fit a word exactly below the limit of mebibytes. The test of the
size is the one of the setting, for all files if the bytes fit a word and else for the files that are no larger than
what is left of the setting. With a setting of which as much is left no file is lost, and if less of it is left then
files of some size are. -/
theorem maxFileSize_spec (h : ofSettings settings = .ok discovery) :
    (settings.maxFileSizeMb * mebibyte < wordLimit ↔ settings.maxFileSizeMb < mebibyteLimit) ∧
    (∀ path name size, size < wordLimit → discovery.selects path name none = true →
      ((discovery.selects path name (some size) = false ↔ settings.maxFileSizeMb * mebibyte < size) ↔
        settings.maxFileSizeMb < mebibyteLimit ∨
          size ≤ settings.maxFileSizeMb % mebibyteLimit * mebibyte)) ∧
    ∀ others other, ofSettings others = .ok other → others.includePatterns = settings.includePatterns →
      others.excludePatterns = settings.excludePatterns →
      (settings.maxFileSizeMb % mebibyteLimit ≤ others.maxFileSizeMb % mebibyteLimit →
        ∀ tree paths found, (discovery.files tree paths).result = .ok found →
          ∃ more, (other.files tree paths).result = .ok more ∧ found.Subperm more) ∧
      (others.maxFileSizeMb % mebibyteLimit < settings.maxFileSizeMb % mebibyteLimit →
        ∀ path name, discovery.selects path name none = true → ∃ size < wordLimit,
          discovery.selects path name (some size) = true ∧ other.selects path name (some size) = false) := by
  obtain ⟨hincluded, hexcluded, hmax⟩ := ofSettings_eq_ok_iff.mp h
  refine ⟨mul_mebibyte_lt_wordLimit_iff, fun path name size => selects_eq_false_iff_iff hmax, ?_⟩
  intro others other hother hsameIncluded hsameExcluded
  obtain ⟨hotherIncluded, hotherExcluded, hotherMax⟩ := ofSettings_eq_ok_iff.mp hother
  rw [hsameIncluded, hincluded] at hotherIncluded
  rw [hsameExcluded, hexcluded] at hotherExcluded
  refine ⟨fun hle tree paths found => files_of_isNarrower ?_, fun hlt path name => exists_size_lost hmax ?_⟩
  · refine ⟨(Except.ok.inj hotherIncluded).symm, (Except.ok.inj hotherExcluded).symm, ?_⟩
    rw [← hmax, ← hotherMax, bytesOfMb_eq, bytesOfMb_eq]
    exact Nat.mul_le_mul_right _ hle
  · rw [← hmax, ← hotherMax, bytesOfMb_eq, bytesOfMb_eq]
    exact Nat.mul_lt_mul_of_pos_right hlt mebibyte_pos

/-- A setting of one mebibyte more than the limit comes to one mebibyte. A file of that size is tested as the setting
says, and one that is a byte larger is not. What is found is also found with two mebibytes. -/
theorem maxFileSize_spec_wrapped :
    let settings : InputSettings :=
      { includePatterns := [], excludePatterns := [], maxFileSizeMb := mebibyteLimit + 1 }
    let discovery : Discovery := { included := [], excluded := [], maxBytes := mebibyte }
    let other : Discovery := { included := [], excluded := [], maxBytes := 2 * mebibyte }
    ofSettings settings = .ok discovery ∧ ¬ settings.maxFileSizeMb * mebibyte < wordLimit ∧
      (discovery.selects "d/a" "a" (some mebibyte) = false ↔ settings.maxFileSizeMb * mebibyte < mebibyte) ∧
      ¬ (discovery.selects "d/a" "a" (some (mebibyte + 1)) = false ↔
        settings.maxFileSizeMb * mebibyte < mebibyte + 1) ∧
      ∀ tree paths found, (discovery.files tree paths).result = .ok found →
        ∃ more, (other.files tree paths).result = .ok more ∧ found.Subperm more := by
  intro settings discovery other
  have hok : ofSettings settings = .ok discovery := ofSettings_eq_ok_iff.mpr ⟨rfl, rfl, by decide⟩
  have hother : ofSettings { settings with maxFileSizeMb := 2 } = .ok other :=
    ofSettings_eq_ok_iff.mpr ⟨rfl, rfl, by decide⟩
  obtain ⟨hfits, htest, hmore⟩ := maxFileSize_spec hok
  refine ⟨hok, fun h => ?_, ?_, fun h => ?_, (hmore _ other hother rfl rfl).1 (by decide)⟩
  · exact absurd (hfits.mp h) (by decide)
  · exact (htest "d/a" "a" mebibyte (by decide) rfl).mpr (.inr (by decide))
  · exact absurd ((htest "d/a" "a" (mebibyte + 1) (by decide) rfl).mp h) (by decide)

/-- A file with one byte, which is found with a setting of one mebibyte. At the limit the setting comes to nothing,
and the file is not found any more, though the settings pass the check. -/
theorem files_mebibyteLimit :
    let tree : Tree := { root := [("d", .directory [("a", .file 0)])], contents := #["x".toUTF8] }
    let small : InputSettings := { includePatterns := [], excludePatterns := [], maxFileSizeMb := 1 }
    let great : InputSettings := { small with maxFileSizeMb := mebibyteLimit }
    let discovery : Discovery := { included := [], excluded := [], maxBytes := mebibyte }
    let other : Discovery := { included := [], excluded := [], maxBytes := 0 }
    ({ input := great } : Settings).check.result = .ok () ∧ small.maxFileSizeMb ≤ great.maxFileSizeMb ∧
      ofSettings small = .ok discovery ∧ ofSettings great = .ok other ∧
      (tree.bytesOf 0).size ≤ great.maxFileSizeMb * mebibyte ∧
      (discovery.files tree ["d"]).result = .ok ["d/a"] ∧ (other.files tree ["d"]).result = .ok [] := by
  intro tree small great discovery other
  have hfile : tree.isFile "d" = false := by cbv
  have hentries : tree.entries? "d" = some [("a", .file 0)] := by cbv
  have hresult : ∀ discovery : Discovery, (discovery.files tree ["d"]).result =
      .ok ((discovery.foundIn tree "d" [("a", .file 0)]).mergeSort Path.le) := by
    intro discovery
    have hone : discovery.filesOf tree "d" = .ok (discovery.filesBelow tree "d" [("a", .file 0)]) := by
      rw [filesOf, hfile, hentries]
      rfl
    rw [files_cons_of_ok hone, result_filesBelow rfl]
    exact congrArg Except.ok (List.append_nil _)
  have hfound : discovery.foundIn tree "d" [("a", .file 0)] = ["d/a"] := by cbv
  have hlost : other.foundIn tree "d" [("a", .file 0)] = [] := by cbv
  refine ⟨rfl, by decide, ofSettings_eq_ok_iff.mpr ⟨rfl, rfl, by decide⟩,
    ofSettings_eq_ok_iff.mpr ⟨rfl, rfl, by decide⟩, by decide, ?_, ?_⟩
  · rw [hresult, hfound, List.mergeSort_singleton]
  · rw [hresult, hlost, List.mergeSort_nil]

end Discovery

end TextChunking
