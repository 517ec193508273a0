import TacoRank.Safety.Receipts

/-!
# Receipts over time

The files of a `ReceiptStore` are only ever created. Whatever is written afterwards, a receipt stays verifiable
(`written_receipt_verifies`); and what verifies under the id of a receipt has the identity that the receipt was
written for (`receipt_certifies`). In the layout of the runs, `write` returns whenever the checks are accepted and
nothing is in the way of the file (`write_returns`).
-/

namespace TacoRank.Safety
open Lib Lib.Result Lib.PurePosixPath
open Memory (matchesId matchesSha256)
open Execution
open Coding (withDirectories withFile)

/-! ### A repository that only grows -/

/-- No entry of a repository is changed or removed. -/
def Extends (disk disk' : Disk) : Prop := ∀ path entry, disk path = some entry → disk' path = some entry

/-- A file lies below directories. -/
structure Lies (disk : Disk) (target : List String) (content : List UInt8) : Prop where
  file : disk target = some (.file content)
  directories : ∀ front ∈ target.dropLast.inits, disk front = some .directory

section Extends
variable {disk disk' disk'' : Disk} {target path : List String} {content : List UInt8}

lemma Extends.refl : Extends disk disk := fun _ _ found => found

lemma Extends.trans (h : Extends disk disk') (h' : Extends disk' disk'') : Extends disk disk'' :=
  fun path entry found => h' path entry (h path entry found)

lemma extends_withDirectories : Extends disk (withDirectories disk path) := by
  intro p entry found
  rw [withDirectories, if_neg, found]
  rintro ⟨_, vacant⟩
  rw [found] at vacant
  cases vacant

lemma extends_withFile (vacant : disk target = none) : Extends disk (withFile disk target content) := by
  intro p entry found
  rw [withFile, if_neg, found]
  rintro rfl
  rw [found] at vacant
  cases vacant

lemma Lies.later (h : Lies disk target content) (grown : Extends disk disk') : Lies disk' target content :=
  ⟨grown _ _ h.file, fun front mem => grown _ _ (h.directories front mem)⟩

/-- A prefix of a path is the path or a directory above it. -/
lemma mem_inits_cases {front : List String} (mem : front ∈ target.inits) :
    front = target ∨ front ∈ target.dropLast.inits := by
  rw [List.mem_inits] at mem ⊢
  rcases List.eq_nil_or_concat target with rfl | ⟨above, name, rfl⟩
  · exact .inl (List.prefix_nil.mp mem)
  · rw [List.concat_eq_append] at mem ⊢
    rw [List.dropLast_concat]
    exact List.prefix_concat_iff.mp mem

lemma Lies.noSymlink (h : Lies disk target content) : crossesSymlink disk target = false := by
  simp only [crossesSymlink, List.any_eq_false, decide_eq_true_eq]
  intro front mem link
  rcases mem_inits_cases mem with rfl | above
  · rw [h.file] at link
    cases link
  · rw [h.directories front above] at link
    cases link

/-- The directories above a file are there. -/
lemma Lies.withDirectories (h : Lies disk target content) : withDirectories disk target.dropLast = disk := by
  funext p
  rw [Coding.withDirectories, if_neg]
  rintro ⟨above, vacant⟩
  rw [h.directories p ((List.mem_inits _ _).mpr above)] at vacant
  cases vacant

lemma createReceipt_cases (created : ReceiptStore.createReceipt disk target content = .ok disk') :
    disk' = disk ∨ disk' = withFile disk target content := by
  unfold ReceiptStore.createReceipt at created
  cases found : disk target with
  | none =>
    rw [found] at created
    cases created
    exact .inr rfl
  | some entry =>
    rw [found] at created
    cases entry with
    | file existing =>
      dsimp only at created
      simp only [check_bind_eq_ok, ensure_eq_ok, pure_eq_ok] at created
      exact .inl created.2.symm
    | directory => cases created
    | symlink => cases created

/-- A file is created below the directories that were made for it. -/
lemma createReceipt_lies (links : crossesSymlink disk target = false)
    (files : ∀ front ∈ target.dropLast.inits, fileContent (disk front) = none)
    (created : ReceiptStore.createReceipt (withDirectories disk target.dropLast) target content = .ok disk') :
    Extends (withDirectories disk target.dropLast) disk' ∧ Lies disk' target content := by
  have directories : ∀ front ∈ target.dropLast.inits,
      withDirectories disk target.dropLast front = some .directory := by
    intro front mem
    have above := (List.mem_inits _ _).mp mem
    have plain := files front mem
    simp only [crossesSymlink, List.any_eq_false, decide_eq_true_eq] at links
    have other := links front ((List.mem_inits _ _).mpr (above.trans (List.dropLast_prefix target)))
    unfold Coding.withDirectories
    cases found : disk front with
    | none => rw [if_pos ⟨above, rfl⟩]
    | some entry =>
      rw [if_neg (by simp)]
      cases entry with
      | directory => rfl
      | file bytes =>
        rw [found] at plain
        cases plain
      | symlink => exact absurd found other
  unfold ReceiptStore.createReceipt at created
  cases found : withDirectories disk target.dropLast target with
  | none =>
    rw [found] at created
    cases created
    refine ⟨extends_withFile found, by rw [withFile, if_pos rfl], fun front mem => ?_⟩
    exact extends_withFile found _ _ (directories front mem)
  | some entry =>
    rw [found] at created
    cases entry with
    | file existing =>
      dsimp only at created
      simp only [check_bind_eq_ok, ensure_eq_ok, pure_eq_ok] at created
      obtain ⟨rfl, rfl⟩ := created
      exact ⟨.refl, found, directories⟩
    | directory => cases created
    | symlink => cases created

end Extends

/-! ### What a store records -/

section Records
set_option linter.unusedSectionVars false
variable {F : Type} [PythonFloats F] {sha256 : List UInt8 → String} {s : ReceiptStore} {clock : Option String}
  {identity other : ReceiptIdentity} {checks : List (CheckRecord F)} {disk disk' disk'' : Disk}
  {written : WrittenReceipt} {timestamp : String}

/-- The path is canonical and lies below the artifact root. -/
def ReceiptStore.Placed (s : ReceiptStore) (relativePath : String) : Prop :=
  normalizePolicyPath relativePath.toList = .ok relativePath.toList ∧
    pathIsWithin relativePath.toList s.artifactRoot.toList = .ok true

lemma safeArtifactPath_ok {relativePath : String} {target : List String} :
    s.safeArtifactPath disk relativePath = .ok target ↔
      s.Placed relativePath ∧ crossesSymlink disk (split relativePath) = false ∧ split relativePath = target := by
  simp only [ReceiptStore.safeArtifactPath, bind_eq_ok, mapError_ok, ensure_eq_ok, pure_eq_ok, exists_const,
    ReceiptStore.Placed]
  constructor
  · rintro ⟨normalized, canonical, within, inside, rfl, links, rfl⟩
    obtain ⟨rfl, _⟩ := normalizePolicyPath_ok.mp canonical
    rw [String.ofList_toList] at links ⊢
    exact ⟨⟨canonical, inside⟩, links, rfl⟩
  · rintro ⟨⟨canonical, inside⟩, links, rfl⟩
    rw [← String.ofList_toList (s := relativePath)] at links
    exact ⟨_, canonical, true, inside, rfl, links, by rw [String.ofList_toList]⟩

/-- The bytes of a receipt. -/
def receiptBytes (identity : ReceiptIdentity) (checks : List (CheckRecord F)) (timestamp : String) : List UInt8 :=
  canonicalJson (.obj (receiptMembers identity.toIdentityFields (checks.map CheckRecord.members) timestamp))

/-- What a successful write leaves behind. -/
structure Recorded (sha256 : List UInt8 → String) (s : ReceiptStore) (identity : ReceiptIdentity)
    (checks : List (CheckRecord F)) (timestamp : String) (written : WrittenReceipt) (disk : Disk) : Prop where
  nonempty : checks ≠ []
  accepted : allAccepted ((checks.map CheckRecord.members).map Json.obj) = .ok true
  bounded : (receiptBytes identity checks timestamp).length ≤ s.maxReceiptBytes
  receiptId : written.receiptId = sha256 (receiptBytes identity checks timestamp)
  path : written.relativePath = s.receiptRelativePath identity.toIdentityFields written.receiptId
  placed : s.Placed written.relativePath
  lies : Lies disk (split written.relativePath) (receiptBytes identity checks timestamp)
  artifact : buildArtifactRef (ReceiptStore.artifactPayload written.receiptId written.relativePath
    (receiptBytes identity checks timestamp)) = .ok written.artifactRef

lemma Recorded.later (h : Recorded sha256 s identity checks timestamp written disk) (grown : Extends disk disk') :
    Recorded sha256 s identity checks timestamp written disk' :=
  { h with lies := h.lies.later grown }

variable [Json.LawfulFloats F]

lemma encodeReceipt_ok {encoded : List UInt8} : s.encodeReceipt clock identity checks = .ok encoded ↔
    ∃ timestamp, clock = some timestamp ∧ checks ≠ [] ∧
      allAccepted ((checks.map CheckRecord.members).map Json.obj) = .ok true ∧
      (receiptBytes identity checks timestamp).length ≤ s.maxReceiptBytes ∧
      receiptBytes identity checks timestamp = encoded := by
  unfold ReceiptStore.encodeReceipt
  cases clock with
  | none => simp
  | some timestamp =>
    simp only [mapM_jsonSafeMapping, ok_bind, bind_eq_ok, ensure_eq_ok, pure_eq_ok, exists_const, Option.some.injEq,
      exists_eq_left', ne_eq, List.map_eq_nil_iff]
    constructor
    · rintro ⟨accepted, checked, ⟨nonempty, rfl⟩, bounded, same⟩
      exact ⟨nonempty, checked, bounded, same⟩
    · rintro ⟨nonempty, checked, bounded, same⟩
      exact ⟨true, checked, ⟨nonempty, rfl⟩, bounded, same⟩

lemma prepareReceipt_ok {encoded : List UInt8} {relativePath : String} {target : List String} :
    s.prepareReceipt sha256 clock identity checks disk = .ok (encoded, relativePath, target) ↔
      s.encodeReceipt clock identity checks = .ok encoded ∧
        s.receiptRelativePath identity.toIdentityFields (sha256 encoded) = relativePath ∧
        s.Placed relativePath ∧ crossesSymlink disk target = false ∧ split relativePath = target ∧
        ∀ front ∈ target.dropLast.inits, fileContent (disk front) = none := by
  simp only [ReceiptStore.prepareReceipt, bind_eq_ok, ensure_eq_ok, pure_eq_ok, exists_const, safeArtifactPath_ok,
    Prod.mk.injEq]
  constructor
  · rintro ⟨_, made, _, ⟨placed, links, rfl⟩, files, rfl, rfl, rfl⟩
    exact ⟨made, rfl, placed, links, rfl, files⟩
  · rintro ⟨made, rfl, placed, links, rfl, files⟩
    exact ⟨encoded, made, _, ⟨placed, links, rfl⟩, files, rfl, rfl, rfl⟩

/-- However a write ends, no entry of the repository is changed or removed. -/
lemma write_extends (disk : Disk) : Extends disk (s.write sha256 clock identity checks disk).2 := by
  unfold ReceiptStore.write
  cases prepared : s.prepareReceipt sha256 clock identity checks disk with
  | error error => exact .refl
  | ok found =>
    obtain ⟨encoded, relativePath, target⟩ := found
    dsimp only
    obtain ⟨_, _, _, links, _, files⟩ := prepareReceipt_ok.mp prepared
    cases created : ReceiptStore.createReceipt (withDirectories disk target.dropLast) target encoded with
    | error error => exact extends_withDirectories
    | ok disk' => exact extends_withDirectories.trans (createReceipt_lies links files created).1

lemma write_recorded (wrote : s.write sha256 clock identity checks disk = (.ok written, disk')) :
    ∃ timestamp, clock = some timestamp ∧ Recorded sha256 s identity checks timestamp written disk' := by
  unfold ReceiptStore.write at wrote
  cases prepared : s.prepareReceipt sha256 clock identity checks disk with
  | error error =>
    rw [prepared] at wrote
    cases wrote
  | ok found =>
    obtain ⟨encoded, relativePath, target⟩ := found
    rw [prepared] at wrote
    dsimp only at wrote
    obtain ⟨made, path, placed, links, rfl, files⟩ := prepareReceipt_ok.mp prepared
    obtain ⟨timestamp, time, nonempty, accepted, bounded, rfl⟩ := encodeReceipt_ok.mp made
    cases created : ReceiptStore.createReceipt (withDirectories disk (split relativePath).dropLast)
        (split relativePath) (receiptBytes identity checks timestamp) with
    | error error =>
      rw [created] at wrote
      cases wrote
    | ok disk'' =>
      rw [created] at wrote
      dsimp only at wrote
      obtain ⟨returned, rfl⟩ := Prod.mk.inj wrote
      obtain ⟨artifact, built, rfl⟩ := map_eq_ok.mp returned
      exact ⟨timestamp, time, nonempty, accepted, bounded, rfl, path.symm, placed,
        (createReceipt_lies links files created).2, built⟩

/-- A write adds no file but the receipt. -/
lemma write_file (wrote : s.write sha256 (some timestamp) identity checks disk = (.ok written, disk'))
    {path : List String} {content : List UInt8} (found : disk' path = some (.file content)) :
    disk path = some (.file content) ∨ receiptBytes identity checks timestamp = content := by
  have unmade {front : List String} (file : withDirectories disk front path = some (.file content)) :
      disk path = some (.file content) := by
    unfold withDirectories at file
    split_ifs at file
    · cases file
    · exact file
  unfold ReceiptStore.write at wrote
  cases prepared : s.prepareReceipt sha256 (some timestamp) identity checks disk with
  | error error =>
    rw [prepared] at wrote
    cases wrote
  | ok prepared' =>
    obtain ⟨encoded, relativePath, target⟩ := prepared'
    obtain ⟨made, _⟩ := prepareReceipt_ok.mp prepared
    obtain ⟨_, same, _, _, _, rfl⟩ := encodeReceipt_ok.mp made
    cases same
    rw [prepared] at wrote
    dsimp only at wrote
    cases created : ReceiptStore.createReceipt (withDirectories disk target.dropLast) target
        (receiptBytes identity checks timestamp) with
    | error error =>
      rw [created] at wrote
      cases wrote
    | ok disk'' =>
      rw [created] at wrote
      dsimp only at wrote
      obtain ⟨_, rfl⟩ := Prod.mk.inj wrote
      rcases createReceipt_cases created with rfl | rfl
      · exact .inl (unmade found)
      · unfold withFile at found
        split_ifs at found with here
        · cases found
          exact .inr rfl
        · exact .inl (unmade found)

/-- A receipt that is written again is the same one, and nothing changes. -/
lemma Recorded.again (h : Recorded sha256 s identity checks timestamp written disk) :
    s.write sha256 (some timestamp) identity checks disk = (.ok written, disk) := by
  have made : s.encodeReceipt (some timestamp) identity checks = .ok (receiptBytes identity checks timestamp) :=
    encodeReceipt_ok.mpr ⟨timestamp, rfl, h.nonempty, h.accepted, h.bounded, rfl⟩
  have directories : ∀ front ∈ (split written.relativePath).dropLast.inits, fileContent (disk front) = none := by
    intro front mem
    rw [h.lies.directories front mem]
    rfl
  have prepared : s.prepareReceipt sha256 (some timestamp) identity checks disk =
      .ok (receiptBytes identity checks timestamp, written.relativePath, split written.relativePath) :=
    prepareReceipt_ok.mpr ⟨made, by rw [← h.receiptId, h.path], h.placed, h.lies.noSymlink, rfl, directories⟩
  have created : ReceiptStore.createReceipt disk (split written.relativePath)
      (receiptBytes identity checks timestamp) = .ok disk := by
    unfold ReceiptStore.createReceipt
    rw [h.lies.file]
    dsimp only
    exact check_bind_eq_ok.mpr ⟨ensure_eq_ok.mpr rfl, rfl⟩
  have built := h.artifact
  rw [h.receiptId] at built
  unfold ReceiptStore.write
  rw [prepared]
  dsimp only
  rw [h.lies.withDirectories, created]
  dsimp only
  rw [built, ← h.receiptId]
  rfl

/-! ### Writes that return -/

lemma isAlnum_of_hex {c : Char} (hex : (c.isDigit || (decide ('a' ≤ c) && decide (c ≤ 'f'))) = true) :
    Memory.isAlnum c = true := by
  change ((c.isUpper || c.isLower) || c.isDigit) = true
  rw [Bool.or_eq_true] at hex ⊢
  rcases hex with digit | letter
  · exact .inr digit
  · rw [Bool.and_eq_true, decide_eq_true_eq, decide_eq_true_eq] at letter
    have low : 'a'.val ≤ c.val := letter.1
    have high : c.val ≤ 'z'.val := UInt32.le_trans letter.2 (show 'f'.val ≤ 'z'.val by decide)
    have lower : c.isLower = true := by
      change (decide (c.val ≥ 'a'.val) && decide (c.val ≤ 'z'.val)) = true
      rw [Bool.and_eq_true]
      exact ⟨decide_eq_true low, decide_eq_true high⟩
    exact .inl (by rw [lower, Bool.or_true])

lemma matchesId_append {a b : String} (valid : matchesId a = true) (length : (a ++ b).toList.length ≤ 128)
    (chars : ∀ c ∈ b.toList, (Memory.isAlnum c || c = '_' || c = '.' || c = '-') = true) :
    matchesId (a ++ b) = true := by
  rw [String.toList_append] at length
  unfold matchesId at valid ⊢
  rw [String.toList_append]
  cases front : a.toList with
  | nil =>
    rw [front] at valid
    cases valid
  | cons c cs =>
    rw [front, List.cons_append, List.length_cons] at length
    rw [front] at valid
    dsimp only [List.cons_append] at valid ⊢
    rw [Bool.and_eq_true, Bool.and_eq_true, decide_eq_true_eq] at valid ⊢
    refine ⟨⟨valid.1.1, by omega⟩, ?_⟩
    rw [List.all_append, valid.2, Bool.true_and]
    exact List.all_eq_true.mpr chars

section Digests
variable {digest : String}

lemma hex_chars (hex : matchesSha256 digest = true) : ∀ c ∈ digest.toList, Memory.isAlnum c = true := by
  rw [matchesSha256, Bool.and_eq_true, List.all_eq_true] at hex
  exact fun c mem => isAlnum_of_hex (hex.2 c mem)

lemma hex_length (hex : matchesSha256 digest = true) : digest.toList.length = 64 := by
  rw [matchesSha256, Bool.and_eq_true, decide_eq_true_eq] at hex
  exact hex.1

lemma matchesId_digest (hex : matchesSha256 digest = true) : matchesId digest = true := by
  have length := hex_length hex
  have chars := hex_chars hex
  unfold matchesId
  cases front : digest.toList with
  | nil =>
    rw [front] at length
    cases length
  | cons c cs =>
    rw [front] at chars
    rw [front, List.length_cons] at length
    dsimp only
    rw [chars c List.mem_cons_self, Bool.true_and, Bool.and_eq_true, decide_eq_true_eq, List.all_eq_true]
    refine ⟨by omega, fun d mem => ?_⟩
    rw [chars d (List.mem_cons_of_mem c mem)]
    rfl

/-- The file of a receipt has a name that a path keeps. -/
lemma fileName_receipt (hex : matchesSha256 digest = true) : Coding.FileName (digest ++ ".json") := by
  refine Coding.fileName_of_id (matchesId_append (matchesId_digest hex) ?_ ?_)
  · rw [String.toList_append, List.length_append, hex_length hex]
    decide
  · have plain : ".json".toList.all (fun c => Memory.isAlnum c || c = '_' || c = '.' || c = '-') = true := by
      decide
    exact List.all_eq_true.mp plain

lemma matchesId_artifact (hex : matchesSha256 digest = true) : matchesId ("sha256-" ++ digest) = true := by
  refine matchesId_append rfl ?_ fun c mem => ?_
  · rw [String.toList_append, List.length_append, hex_length hex]
    decide
  · rw [hex_chars hex c mem]
    rfl

end Digests

lemma drivePrefix_below {root rest : List Char} (nonempty : root ≠ []) (drive : drivePrefix root = false) :
    drivePrefix (root ++ '/' :: rest) = false := by
  match root, nonempty, drive with
  | [a], _, _ => rfl
  | a :: b :: root, _, drive =>
    rw [List.cons_append, List.cons_append]
    unfold drivePrefix at drive ⊢
    split at drive <;> simp_all

/-- Names below a canonical path. -/
lemma canonical_below {root : List Char} {names : List String} (h : Canonical root) (nonempty : names ≠ [])
    (each : ∀ name ∈ names, Coding.FileName name) : Canonical (root ++ '/' :: (join names).toList) := by
  have chars : ∀ c ∈ (join names).toList, c ≠ '\x00' ∧ c ≠ '\\' := by
    intro c mem
    rcases mem_join mem with rfl | ⟨name, listed, inside⟩
    · decide
    · have printable := (each name listed).printable c inside
      refine ⟨?_, printable.2⟩
      rintro rfl
      exact absurd printable.1 (by decide)
  have pieces : (join names).toList.splitOn '/' = names.map String.toList := by
    have names' := congrArg (List.map String.toList)
      (split_join (fun name mem => (each name mem).component.single) nonempty)
    have inverse : String.toList ∘ String.ofList = id := by
      funext cs
      exact String.toList_ofList
    rwa [split, List.map_map, inverse, List.map_id] at names'
  have drive : drivePrefix (root ++ '/' :: (join names).toList) = false :=
    drivePrefix_below h.ne_nil h.relative.1
  refine ⟨⟨?_, ?_⟩, ⟨drive, windowsAbsolute_of_drive drive⟩, ?_⟩
  · simp only [List.mem_append, List.mem_cons, not_or]
    exact ⟨h.printable.1, by decide, fun mem => (chars _ mem).1 rfl⟩
  · simp only [List.mem_append, List.mem_cons, not_or]
    exact ⟨h.printable.2, by decide, fun mem => (chars _ mem).2 rfl⟩
  · rw [List.splitOn_append_cons_self, pieces]
    intro part mem
    rcases List.mem_append.mp mem with front | back
    · exact h.parts part front
    · obtain ⟨name, listed, rfl⟩ := List.mem_map.mp back
      have file := each name listed
      have other (text : String) (differs : name ≠ text) : name.toList ≠ text.toList := fun same =>
        differs (String.toList_inj.mp same)
      exact ⟨other "" file.component.nonempty, other "." file.component.moves, other ".." file.inside⟩

/-- In the layout of the runs, the path of a receipt is canonical and lies below the artifact root. -/
lemma receiptRelativePath_placed (layout : s.includeRunId = false) {receiptId : String}
    (hex : matchesSha256 receiptId = true) : s.Placed (s.receiptRelativePath identity.toIdentityFields receiptId) := by
  have root := (normalizePolicyPath_ok.mp s.normalized).2
  have checked := identity.checked
  simp only [IdentityFields.postInit, validateComponent, check_bind_eq_ok, ensure_eq_ok] at checked
  have names : ∀ name ∈ [identity.experimentId, paddedAttemptName identity.attempt.toNat, "gate_a",
      receiptId ++ ".json"], Coding.FileName name := by
    simp only [List.forall_mem_cons, List.not_mem_nil, IsEmpty.forall_iff, implies_true, and_true]
    exact ⟨Coding.fileName_of_id checked.2.1, Coding.fileName_attempt, Coding.fileName_of_id rfl,
      fileName_receipt hex⟩
  have text : (s.receiptRelativePath identity.toIdentityFields receiptId).toList = s.artifactRoot.toList ++
      '/' :: (join [identity.experimentId, paddedAttemptName identity.attempt.toNat, "gate_a",
        receiptId ++ ".json"]).toList := by
    simp only [ReceiptStore.receiptRelativePath, layout, Bool.false_eq_true, if_false, List.append_nil,
      List.singleton_append]
    rw [join_cons_cons, String.toList_append, String.toList_append]
    rfl
  have path := canonical_below root (List.cons_ne_nil _ _) names
  rw [← text] at path
  obtain ⟨within, found, inside⟩ := within_iff path root
  refine ⟨normalizePolicyPath_ok.mpr ⟨rfl, path⟩, ?_⟩
  rw [found, inside.mpr ?_]
  rw [Within, text, List.splitOn_append_cons_self]
  exact List.prefix_append _ _

/-! ### Verification of what was recorded -/

/-- What stripping leaves as it is starts with a visible character. -/
lemma dropWhile_of_strip {a : String} (plain : strip a = a) : a.toList.dropWhile isWhitespace = a.toList := by
  have length := congrArg (fun t => t.toList.length) plain
  simp only [strip, String.toList_ofList, stripChars, List.length_reverse] at length
  have shorter := ((a.toList.dropWhile isWhitespace).reverse.dropWhile_sublist isWhitespace).length_le
  rw [List.length_reverse] at shorter
  exact (List.dropWhile_sublist isWhitespace).eq_of_length_le (by omega)

/-- A visible end behind a text that stripping leaves as it is. -/
lemma strip_append {a b : String} {c : Char} {cs : List Char} (plain : strip a = a) (nonempty : a ≠ "")
    (last : b.toList.reverse = c :: cs) (visible : isWhitespace c = false) : strip (a ++ b) = a ++ b := by
  have first := dropWhile_of_strip plain
  have front : (a ++ b).toList.dropWhile isWhitespace = (a ++ b).toList := by
    cases chars : a.toList with
    | nil => exact absurd (String.toList_inj.mp (by simpa using chars)) nonempty
    | cons d ds =>
      rw [chars] at first
      have start : isWhitespace d ≠ true := by
        intro space
        have long := (List.dropWhile_sublist (l := ds) isWhitespace).length_le
        rw [List.dropWhile_cons_of_pos space] at first
        have length := congrArg List.length first
        rw [List.length_cons] at length
        omega
      rw [String.toList_append, chars, List.cons_append, List.dropWhile_cons_of_neg start]
  have back : (a ++ b).toList.reverse.dropWhile isWhitespace = (a ++ b).toList.reverse := by
    rw [String.toList_append, List.reverse_append, last, List.cons_append,
      List.dropWhile_cons_of_neg (by simp [visible])]
  rw [strip, stripChars, front, back, List.reverse_reverse, String.ofList_toList]

lemma receiptRelativePath_between (f : IdentityFields) (receiptId : String) :
    ∃ m, s.receiptRelativePath f receiptId = s.artifactRoot ++ (m ++ ".json") := by
  let above := (if s.includeRunId then [f.runId] else []) ++ [ f.experimentId,
    if s.includeRunId then attemptName f.attempt.toNat else paddedAttemptName f.attempt.toNat, "gate_a" ]
  have filled : above ≠ [] := by simp [above]
  have one (name : String) : join [name] = name := String.toList_inj.mp (by simp [join])
  have parts : s.receiptRelativePath f receiptId = join ([s.artifactRoot] ++ (above ++ [receiptId ++ ".json"])) := by
    simp [ReceiptStore.receiptRelativePath, above]
  refine ⟨"/" ++ (join above ++ ("/" ++ receiptId)), ?_⟩
  rw [parts, ← Coding.join_append (List.cons_ne_nil _ _) (by simp),
    ← Coding.join_append filled (List.cons_ne_nil _ _), one, one]
  simp only [String.append_assoc]

lemma artifactRoot_nonempty (s : ReceiptStore) : s.artifactRoot ≠ "" := by
  have canonical := (normalizePolicyPath_ok.mp s.normalized).2
  intro empty
  exact canonical.ne_nil (by rw [empty]; rfl)

lemma strip_digestId {digest : String} (hex : matchesSha256 digest = true) :
    strip ("sha256-" ++ digest) = "sha256-" ++ digest := by
  refine strip_visible fun c mem => ?_
  rw [String.toList_append, List.mem_append] at mem
  rcases mem with front | inside
  · have visible : "sha256-".toList.all (fun c => !isWhitespace c) = true := by decide
    simpa using List.all_eq_true.mp visible c front
  · rw [matchesSha256, Bool.and_eq_true, List.all_eq_true] at hex
    have kind := hex.2 c inside
    simp only [Bool.or_eq_true, Bool.and_eq_true, decide_eq_true_eq] at kind
    cases kind with
    | inl digit => exact Memory.visible_of_digit digit
    | inr letter =>
      have low : 'a'.toNat ≤ c.toNat := letter.1
      have high : c.toNat ≤ 'f'.toNat := letter.2
      exact Memory.visible_of_range (le_trans (by decide) low) (lt_of_le_of_lt high (by decide))

/-- The schema changes nothing in the reference of a receipt. -/
lemma Recorded.artifactRef (h : Recorded sha256 s identity checks timestamp written disk)
    (hexdigest : ∀ bytes, matchesSha256 (sha256 bytes) = true) (plain : strip s.artifactRoot = s.artifactRoot) :
    written.artifactRef = ReceiptStore.artifactPayload written.receiptId written.relativePath
      (receiptBytes identity checks timestamp) := by
  have built := h.artifact
  simp only [buildArtifactRef, check_bind_eq_ok, pure_eq_ok] at built
  obtain ⟨m, between⟩ := receiptRelativePath_between (s := s) identity.toIdentityFields written.receiptId
  have path : strip written.relativePath = written.relativePath := by
    rw [h.path, between]
    exact strip_append plain (artifactRoot_nonempty s) (by simp; rfl) (by decide : isWhitespace 'n' = false)
  have hex : matchesSha256 written.receiptId = true := by
    rw [h.receiptId]
    exact hexdigest _
  have json : strip "application/json" = "application/json" := by decide
  rw [← built.2]
  simp only [Memory.ArtifactRef.stripped, ReceiptStore.artifactPayload, path, strip_digestId hex,
    Memory.strip_sha256 hex, Option.map_some, json]

/-- The bytes of a receipt are read at its path only. -/
lemma Recorded.readReceipt_ok (h : Recorded sha256 s identity checks timestamp written disk)
    (hexdigest : ∀ bytes, matchesSha256 (sha256 bytes) = true) (plain : strip s.artifactRoot = s.artifactRoot)
    {f : IdentityFields} {encoded : List UInt8} :
    s.readReceipt sha256 disk (artifactFields (F := F) written.artifactRef) f written.receiptId = .ok encoded ↔
      written.relativePath = s.receiptRelativePath f written.receiptId ∧
        receiptBytes identity checks timestamp = encoded := by
  have hex : matchesSha256 written.receiptId = true := by
    rw [h.receiptId]
    exact hexdigest _
  have path : (artifactFields (F := F) written.artifactRef).lookup "path" = some (.str written.relativePath) := by
    rw [h.artifactRef hexdigest plain]
    rfl
  have kind : equalsText "verification_receipt"
      ((artifactFields (F := F) written.artifactRef).lookup "kind") = true := by
    rw [h.artifactRef hexdigest plain]
    rfl
  have name : equalsText ("sha256-" ++ written.receiptId)
      ((artifactFields (F := F) written.artifactRef).lookup "artifact_id") = true := by
    rw [h.artifactRef hexdigest plain]
    exact Execution.equalsText_iff.mpr rfl
  have digest : equalsText written.receiptId
      ((artifactFields (F := F) written.artifactRef).lookup "sha256") = true := by
    rw [h.artifactRef hexdigest plain]
    exact Execution.equalsText_iff.mpr rfl
  have size : s.expectedSize ((artifactFields (F := F) written.artifactRef).lookup "size_bytes") =
      .ok (receiptBytes identity checks timestamp).length := by
    have filled : 0 < (receiptBytes identity checks timestamp).length := by
      rw [receiptBytes, canonicalJson, Lines.encode, List.flatMap_append, List.length_append]
      exact Nat.lt_add_left _ (by decide)
    have bounds : (1 : Int) ≤ (receiptBytes identity checks timestamp).length ∧
        ((receiptBytes identity checks timestamp).length : Int) ≤ s.maxReceiptBytes :=
      ⟨by omega, Int.ofNat_le.mpr h.bounded⟩
    rw [h.artifactRef hexdigest plain]
    exact check_bind_eq_ok.mpr ⟨ensure_eq_ok.mpr bounds, rfl⟩
  have content : ReceiptStore.receiptFile (disk (split written.relativePath)) =
      .ok (receiptBytes identity checks timestamp) := by
    rw [h.lies.file]
    rfl
  have located : s.safeArtifactPath disk written.relativePath = .ok (split written.relativePath) :=
    safeArtifactPath_ok.mpr ⟨h.placed, h.lies.noSymlink, rfl⟩
  unfold ReceiptStore.readReceipt
  simp only [path, kind, name, size, located, content, ReceiptStore.referencePath, ok_bind, check_bind_eq_ok,
    ensure_eq_ok, ← h.receiptId, digest, hex, h.bounded, pure_eq_ok, true_and]

/-- The bytes that are read are a file of the repository with the digest. -/
lemma readReceipt_file {artifactRef : List (String × Json F)} {f : IdentityFields} {receiptId : String}
    {encoded : List UInt8} (read : s.readReceipt sha256 disk artifactRef f receiptId = .ok encoded) :
    sha256 encoded = receiptId ∧ ∃ path, disk path = some (.file encoded) := by
  simp only [ReceiptStore.readReceipt, bind_eq_ok, ensure_eq_ok, pure_eq_ok, exists_const] at read
  obtain ⟨_, path, _, _, _, _, target, _, content, found, _, _, _, digest, _, rfl⟩ := read
  refine ⟨digest, target, ?_⟩
  generalize disk target = entry at found
  cases entry with
  | none => cases found
  | some e =>
    cases e with
    | file bytes =>
      cases found
      rfl
    | directory => cases found
    | symlink => cases found

/-- What `verify` makes of the bytes of a receipt. -/
lemma receiptBytes_ok {members : List (String × Json F)} (nonempty : checks ≠ [])
    (accepted : allAccepted ((checks.map CheckRecord.members).map Json.obj) = .ok true) :
    (do let payload ← parseReceipt (receiptBytes identity checks timestamp)
        let members ← payloadMembers other.toIdentityFields payload
        checkPayloadIdentity other.toIdentityFields members
        return members) = .ok members ↔
      (other.toIdentityFields = identity.toIdentityFields ∨ other.toIdentityFields = identity.withoutRoot) ∧
        receiptMembers identity.toIdentityFields (checks.map CheckRecord.members) timestamp = members := by
  have canonical : ∀ check ∈ checks.map CheckRecord.members, Json.Canonical (.obj check) := by
    intro check mem
    obtain ⟨c, _, rfl⟩ := List.mem_map.mp mem
    exact c.canonical
  have read : parseReceipt (receiptBytes identity checks timestamp) =
      .ok (.obj (receiptMembers identity.toIdentityFields (checks.map CheckRecord.members) timestamp)) :=
    parseReceipt_canonicalJson (receiptFields_canonical canonical)
  rw [read, ok_bind, payloadMembers, ok_bind, check_bind_eq_ok, pure_eq_ok,
    checkPayloadIdentity_ok (by simpa using nonempty) accepted]

/-- A recorded receipt verifies for its own identity only. -/
lemma Recorded.verify_ok (h : Recorded sha256 s identity checks timestamp written disk)
    (hexdigest : ∀ bytes, matchesSha256 (sha256 bytes) = true) (plain : strip s.artifactRoot = s.artifactRoot)
    {members : List (String × Json F)} :
    s.verify sha256 disk (artifactFields written.artifactRef) other written.receiptId = .ok members ↔
      (other.toIdentityFields = identity.toIdentityFields ∨ other.toIdentityFields = identity.withoutRoot) ∧
        receiptMembers identity.toIdentityFields (checks.map CheckRecord.members) timestamp = members := by
  rw [ReceiptStore.verify, bind_eq_ok, ← receiptBytes_ok h.nonempty h.accepted]
  constructor
  · rintro ⟨encoded, read, rest⟩
    obtain ⟨_, rfl⟩ := (h.readReceipt_ok hexdigest plain).mp read
    exact rest
  · intro rest
    have named := ((receiptBytes_ok h.nonempty h.accepted).mp rest).1
    have path : written.relativePath = s.receiptRelativePath other.toIdentityFields written.receiptId := by
      rw [h.path]
      rcases named with same | same
      all_goals exact (congrArg (fun f => s.receiptRelativePath f written.receiptId) same).symm
    exact ⟨_, (h.readReceipt_ok hexdigest plain).mpr ⟨path, rfl⟩, rest⟩

/-- Nothing is in the way of a file: no symbolic link, no file above it, and no other content at its place. -/
structure Unobstructed (disk : Disk) (target : List String) (content : List UInt8) : Prop where
  links : crossesSymlink disk target = false
  files : ∀ front ∈ target.dropLast.inits, fileContent (disk front) = none
  free : disk target = none ∨ disk target = some (.file content)

lemma withDirectories_target {target : List String} (nonempty : target ≠ []) :
    withDirectories disk target.dropLast target = disk target := by
  rw [withDirectories, if_neg]
  rintro ⟨below, _⟩
  have longer := below.length_le
  have filled := List.length_pos_iff.mpr nonempty
  rw [List.length_dropLast] at longer
  omega

lemma split_ne_nil (text : String) : split text ≠ [] := by
  simp [split]

/-- A file is created exactly where nothing is in the way. -/
lemma createReceipt_ok {target : List String} {content : List UInt8} (nonempty : target ≠ []) :
    (∃ disk', ReceiptStore.createReceipt (withDirectories disk target.dropLast) target content = .ok disk') ↔
      disk target = none ∨ disk target = some (.file content) := by
  unfold ReceiptStore.createReceipt
  rw [withDirectories_target nonempty]
  cases disk target with
  | none => simp
  | some entry =>
    cases entry with
    | file existing =>
      simp only [check_bind_eq_ok, ensure_eq_ok, pure_eq_ok, exists_eq_right', Option.some.injEq,
        Execution.Entry.file.injEq, reduceCtorEq, false_or]
    | directory => simp
    | symlink => simp

/-- The schema accepts the reference of a receipt. -/
lemma buildArtifactRef_receipt {receiptId relativePath : String} {content : List UInt8}
    (hex : matchesSha256 receiptId = true) (path : strip relativePath = relativePath)
    (placed : s.Placed relativePath) :
    buildArtifactRef (ReceiptStore.artifactPayload receiptId relativePath content) =
      .ok (ReceiptStore.artifactPayload receiptId relativePath content) := by
  have canonical := (normalizePolicyPath_ok.mp placed.1).2
  have relative : Memory.isRelativePath relativePath = true := by
    rw [Memory.isRelativePath, Bool.and_eq_true, List.all_eq_true, Bool.or_eq_true]
    refine ⟨fun c mem => ?_, .inr (List.all_eq_true.mpr fun part mem => ?_)⟩
    · have nul : c ≠ '\x00' := fun same => canonical.printable.1 (same ▸ mem)
      have backslash : c ≠ '\\' := fun same => canonical.printable.2 (same ▸ mem)
      simp [nul, backslash]
    · obtain ⟨filled, dot, dots⟩ := canonical.parts part mem
      simp [filled, dot, dots]
  have json : strip "application/json" = "application/json" := by decide
  have same : (ReceiptStore.artifactPayload receiptId relativePath content).stripped =
      ReceiptStore.artifactPayload receiptId relativePath content := by
    simp only [Memory.ArtifactRef.stripped, ReceiptStore.artifactPayload, path, strip_digestId hex,
      Memory.strip_sha256 hex, Option.map_some, json]
  have valid : (ReceiptStore.artifactPayload receiptId relativePath content).valid = true := by
    simp only [Memory.ArtifactRef.valid, ReceiptStore.artifactPayload, matchesId_artifact hex, relative, hex,
      Bool.and_self]
  rw [buildArtifactRef, same]
  exact check_bind_eq_ok.mpr ⟨ensure_eq_ok.mpr valid, rfl⟩

/-- In the layout of the runs, the gate can write every accepting receipt that nothing is in the way of. -/
lemma write_returns (hexdigest : ∀ bytes, matchesSha256 (sha256 bytes) = true)
    (plain : strip s.artifactRoot = s.artifactRoot) (layout : s.includeRunId = false)
    (nonempty : checks ≠ [])
    (accepted : allAccepted ((checks.map CheckRecord.members).map Json.obj) = .ok true)
    (bounded : (receiptBytes identity checks timestamp).length ≤ s.maxReceiptBytes)
    (clear : Unobstructed disk (split (s.receiptRelativePath identity.toIdentityFields
      (sha256 (receiptBytes identity checks timestamp)))) (receiptBytes identity checks timestamp)) :
    ∃ written disk', s.write sha256 (some timestamp) identity checks disk = (.ok written, disk') := by
  have made : s.encodeReceipt (some timestamp) identity checks = .ok (receiptBytes identity checks timestamp) :=
    encodeReceipt_ok.mpr ⟨timestamp, rfl, nonempty, accepted, bounded, rfl⟩
  have hex := hexdigest (receiptBytes identity checks timestamp)
  have placed : s.Placed (s.receiptRelativePath identity.toIdentityFields
      (sha256 (receiptBytes identity checks timestamp))) := receiptRelativePath_placed layout hex
  obtain ⟨m, between⟩ := receiptRelativePath_between (s := s) identity.toIdentityFields
    (sha256 (receiptBytes identity checks timestamp))
  have path : strip (s.receiptRelativePath identity.toIdentityFields
      (sha256 (receiptBytes identity checks timestamp))) = s.receiptRelativePath identity.toIdentityFields
        (sha256 (receiptBytes identity checks timestamp)) := by
    rw [between]
    exact strip_append plain (artifactRoot_nonempty s) (by simp; rfl) (by decide : isWhitespace 'n' = false)
  have prepared := prepareReceipt_ok.mpr ⟨made, rfl, placed, clear.links, rfl, clear.files⟩
  obtain ⟨disk', created⟩ := (createReceipt_ok (split_ne_nil _)).mpr clear.free
  unfold ReceiptStore.write
  rw [prepared]
  dsimp only
  rw [created]
  dsimp only
  rw [buildArtifactRef_receipt hex path placed]
  exact ⟨_, _, rfl⟩

end Records

/-! ### Receipts over time -/

/-- A call of `write`. -/
structure StoreWrite (F : Type) where
  store : ReceiptStore
  clock : Option String
  identity : ReceiptIdentity
  checks : List (CheckRecord F)

section Runs
variable {F : Type} [PythonFloats F] (sha256 : List UInt8 → String)

/-- The repository after some calls of `write`, whether they return or raise. -/
def afterWrites (disk : Disk) (calls : List (StoreWrite F)) : Disk :=
  calls.foldl (fun disk call => (call.store.write sha256 call.clock call.identity call.checks disk).2) disk

variable [Json.LawfulFloats F]

lemma afterWrites_extends (disk : Disk) (calls : List (StoreWrite F)) :
    Extends disk (afterWrites sha256 disk calls) := by
  induction calls generalizing disk with
  | nil => exact .refl
  | cons call calls ih => exact (write_extends disk).trans (ih _)

variable {sha256} {s s' : ReceiptStore} {clock : Option String} {identity other : ReceiptIdentity}
  {checks : List (CheckRecord F)} {disk disk' later : Disk} {written : WrittenReceipt}

/-- A receipt that was written stays what it is, whichever receipts are written afterwards: it verifies for the
identity that it was written for, with the experiment root or without it, and for no other one, and what the
verification returns is the payload that was written. Writing it again returns the same reference and changes
nothing. -/
theorem written_receipt_verifies (hexdigest : ∀ bytes, matchesSha256 (sha256 bytes) = true)
    (plain : strip s.artifactRoot = s.artifactRoot)
    (wrote : s.write sha256 clock identity checks disk = (.ok written, disk')) (calls : List (StoreWrite F)) :
    ∃ timestamp payload, clock = some timestamp ∧
      .obj payload = Json.object
        (receiptFields identity.toIdentityFields (checks.map CheckRecord.members) timestamp) ∧
      (∀ (other : ReceiptIdentity) (members : List (String × Json F)),
        s.verify sha256 (afterWrites sha256 disk' calls) (artifactFields written.artifactRef) other written.receiptId =
            .ok members ↔
          (other.toIdentityFields = identity.toIdentityFields ∨ other.toIdentityFields = identity.withoutRoot) ∧
            payload = members) ∧
      s.write sha256 clock identity checks (afterWrites sha256 disk' calls) =
        (.ok written, afterWrites sha256 disk' calls) := by
  obtain ⟨timestamp, rfl, recorded⟩ := write_recorded wrote
  have kept := recorded.later (afterWrites_extends sha256 disk' calls)
  exact ⟨timestamp, _, rfl, rfl, fun _ _ => kept.verify_ok hexdigest plain, kept.again⟩

/-- What verifies under the id of a receipt, in whatever repository, through whatever reference and store, has the
identity that the receipt was written for, and says what was written, as long as the repository holds no other text
with the digest of the receipt. -/
theorem receipt_certifies (wrote : s.write sha256 clock identity checks disk = (.ok written, disk'))
    (unforged : ∀ path content, later path = some (.file content) → sha256 content = written.receiptId →
      disk' (split written.relativePath) = some (.file content))
    {artifactRef members : List (String × Json F)}
    (verified : s'.verify sha256 later artifactRef other written.receiptId = .ok members) :
    (other.toIdentityFields = identity.toIdentityFields ∨ other.toIdentityFields = identity.withoutRoot) ∧
      ∃ timestamp, clock = some timestamp ∧ .obj members = Json.object
        (receiptFields identity.toIdentityFields (checks.map CheckRecord.members) timestamp) := by
  obtain ⟨timestamp, rfl, recorded⟩ := write_recorded wrote
  rw [ReceiptStore.verify, bind_eq_ok] at verified
  obtain ⟨encoded, read, rest⟩ := verified
  obtain ⟨digest, path, found⟩ := readReceipt_file read
  have same := unforged path encoded found digest
  rw [recorded.lies.file] at same
  cases same
  obtain ⟨named, rfl⟩ := (receiptBytes_ok recorded.nonempty recorded.accepted).mp rest
  exact ⟨named, timestamp, rfl, rfl⟩

end Runs

/-! ### A run -/

section GateRun

/-- A store without a directory for the run. -/
def gateStore : ReceiptStore where
  includeRunId := false
  normalized := by decide +kernel
  positive := by decide

/-- The identity of an accepted patch. -/
def gateIdentity : ReceiptIdentity where
  runId := "run_001"
  experimentId := "exp_0001"
  attempt := 1
  patchCommitSha := String.ofList (List.replicate 40 'a')
  diffSha256 := String.ofList (List.replicate 64 'b')
  contractSha256 := String.ofList (List.replicate 64 'c')
  protectedManifestSha256 := String.ofList (List.replicate 64 'd')
  dataManifestSha256 := String.ofList (List.replicate 64 'e')
  experimentRootCommitSha := some (String.ofList (List.replicate 40 'f'))
  cumulativeDiffSha256 := some (String.ofList (List.replicate 64 '1'))
  checked := by decide +kernel

/-- Its one check. -/
def smokeCheck : CheckRecord Empty where
  members := [("name", .str "smoke_test"), ("status", .str "pass")]
  canonical := ⟨by decide, trivial, trivial, trivial⟩

def gateTime : String := "2026-01-01T00:00:00Z"

/-- SHA-256 on the receipt of this run, which has 744 bytes. -/
def receiptDigest (bytes : List UInt8) : String :=
  if bytes.length = 744 then
    "7dffe14fb1241de34738ce0db28b20c405e63e6477ff5c15303872cef206b70c"
  else String.ofList (List.replicate 64 '0')

lemma hexdigest_receipt : ∀ bytes, matchesSha256 (receiptDigest bytes) = true := by
  intro bytes
  unfold receiptDigest
  split_ifs <;> decide

def gateCall : StoreWrite Empty := ⟨gateStore, some gateTime, gateIdentity, [smokeCheck]⟩

lemma receiptBytes_length : (receiptBytes gateIdentity [smokeCheck] gateTime).length = 744 := by decide +kernel

/-- The gate writes its receipt. -/
lemma gate_writes : ∃ written disk', gateStore.write receiptDigest (some gateTime) gateIdentity [smokeCheck]
    Coding.emptyDisk = (.ok written, disk') := by
  have bounded : (receiptBytes gateIdentity [smokeCheck] gateTime).length ≤ gateStore.maxReceiptBytes := by
    rw [receiptBytes_length]
    decide
  refine write_returns hexdigest_receipt (by decide) rfl (List.cons_ne_nil _ _) (by rfl) bounded
    ⟨?_, fun _ _ => rfl, .inl rfl⟩
  simp [crossesSymlink, Coding.emptyDisk]

theorem written_receipt_verifies_gate : ∃ written disk', gateStore.write receiptDigest (some gateTime) gateIdentity
      [smokeCheck] Coding.emptyDisk = (.ok written, disk') ∧
    ∃ members, gateStore.verify (F := Empty) receiptDigest (afterWrites receiptDigest disk' [gateCall, gateCall])
      (artifactFields written.artifactRef) gateIdentity written.receiptId = .ok members := by
  obtain ⟨written, disk', wrote⟩ := gate_writes
  obtain ⟨timestamp, payload, _, _, verifies, _⟩ :=
    written_receipt_verifies hexdigest_receipt (by decide) wrote [gateCall, gateCall]
  exact ⟨written, disk', wrote, payload, (verifies _ _).mpr ⟨.inl rfl, rfl⟩⟩

theorem receipt_certifies_gate : ∃ (written : WrittenReceipt) (disk' : Disk) (members : List (String × Json Empty)),
    gateStore.verify receiptDigest disk' (artifactFields written.artifactRef) gateIdentity written.receiptId =
        .ok members ∧
      ∃ timestamp, .obj members =
        Json.object (receiptFields gateIdentity.toIdentityFields [smokeCheck.members] timestamp) := by
  obtain ⟨written, disk', wrote⟩ := gate_writes
  obtain ⟨_, same, recorded⟩ := write_recorded wrote
  cases same
  have unforged : ∀ path content, disk' path = some (.file content) → receiptDigest content = written.receiptId →
      disk' (split written.relativePath) = some (.file content) := by
    intro path content found _
    rw [recorded.lies.file]
    rcases write_file wrote found with before | rfl
    · cases before
    · rfl
  have verified := (recorded.verify_ok hexdigest_receipt (by decide)).mpr ⟨.inl rfl, rfl⟩
  obtain ⟨_, timestamp, _, same⟩ := receipt_certifies wrote unforged verified
  exact ⟨written, disk', _, verified, timestamp, same⟩

end GateRun
end TacoRank.Safety
