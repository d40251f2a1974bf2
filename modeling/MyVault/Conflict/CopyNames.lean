import MyVault.Conflict.Identity

/-!
# The search for the name of a conflict copy

`resolve_conflict_copy_name` tries fourteen names, one for each prefix of the
conflict id, and stops at the first one no foreign entry collides with
(`FirstUnblocked`).  Only there does it look for a copy of its own.  So an
earlier copy is found again exactly when it sits at that name
(`finds_own_copy_iff`); when a foreign entry that once forced a longer prefix is
gone, the shorter name is free and a second copy is created
(`rerun_creates_a_second_copy`).

## The two conditions

The copy is kept (`KeepsCopy`) if the answer is to reuse it or to reconcile; to create a name
beside it is the second copy.  Two conditions on the request decide that.  `FirstUnblocked` is the
first name, in the order of the prefixes, that no foreign entry occupies: the search stops there
whatever it finds.  `Contradictory` is a name whose entries disagree on the object or on the path,
and then the answer is to reconcile.

The two are compared name by name.  A name that is blocked is passed over
(`decideName_eq_none_iff`), and at the name where the search stops the copy is kept exactly if it
sits there or the entries contradict each other (`keepsCopy_decideName_iff`).  The induction is on
the prefixes that are left (`keepsCopy_searchPrefixes_iff`).
-/

namespace MyVault
namespace Conflict

open VaultPath

section Search

variable (u : Unicode) (sha256 : Sha256) (request : ConflictCopyNameRequest)

/-- The entry is a copy of this very conflict with the expected content. -/
def IsOwnCopy (occupied : OccupiedConflictCopy) : Prop :=
  occupied.conflictId = request.conflictId ∧ occupied.expectedContent = request.expectedContent

/-- The entry occupies the name. -/
def Collides (name : ConflictCopyName) (occupied : OccupiedConflictCopy) : Prop :=
  occupied ∈ request.occupied ∧ occupied.normalizedCollisionKey = name.normalizedCollisionKey

/-- Every entry that occupies the name is a copy of this conflict. -/
def Unblocked (name : ConflictCopyName) : Prop :=
  ∀ occupied, Collides request name occupied → IsOwnCopy request occupied

/-- Two entries that occupy the name contradict each other or the name. -/
def Contradictory (name : ConflictCopyName) : Prop :=
  ∃ first second, Collides request name first ∧ Collides request name second ∧
    (first.objectId ≠ second.objectId ∨ first.destinationPath ≠ name.destinationPath)

/-- The first of the names, in the order they are tried, that no foreign entry occupies. -/
inductive FirstUnblocked (stem extension : Text) : List ℕ → ConflictCopyName → Prop
  | here {prefixLength rest name}
      (built : candidateName u sha256 request stem extension prefixLength = .ok name)
      (unblocked : Unblocked request name) :
      FirstUnblocked stem extension (prefixLength :: rest) name
  | later {prefixLength rest other name}
      (built : candidateName u sha256 request stem extension prefixLength = .ok other)
      (blocked : ¬ Unblocked request other)
      (next : FirstUnblocked stem extension rest name) :
      FirstUnblocked stem extension (prefixLength :: rest) name

/-- What the request has passed when the search starts from `source`. -/
structure RequestAccepted (source : VaultPath u) : Prop where
  naming : request.namingVersion = conflictNamingVersion
  conflictId : isLowerHex64 request.conflictId = true
  content : validFingerprint request.expectedContent = true
  few : request.occupied.length ≤ 4096
  occupied : ∀ occupied ∈ request.occupied, validOccupied u sha256 occupied = true
  source : exactVaultPath u request.sourcePath.toList = some source
  parent : ∀ parent ∈ request.destinationParentPath,
    (exactVaultPath u parent.toList).isSome = true

/-- The entry sits at one of the names of the request. -/
def SitsAtCandidate (occupied : OccupiedConflictCopy) : Prop :=
  ∃ source, RequestAccepted u sha256 request source ∧
    ∃ prefixLength ∈ prefixLengths, ∃ name,
      candidateName u sha256 request (splitExtension (sourceName u source)).1
        (splitExtension (sourceName u source)).2 prefixLength = .ok name ∧
      occupied.destinationPath = name.destinationPath

end Search

/-- The outcome makes no second copy: it is `Reuse` of that copy or `NeedsReconcile`. -/
def KeepsCopy (copy : OccupiedConflictCopy) : ConflictCopyNameOutcome → Prop
  | .create _ => False
  | .reuse name =>
      name.destinationPath = copy.destinationPath ∧ name.existingObjectId = some copy.objectId
  | .needsReconcile _ => True

variable {u : Unicode} {sha256 : Sha256} {request : ConflictCopyNameRequest}

/-! ## One name -/

theorem mem_collisions_iff {name : ConflictCopyName} {occupied : OccupiedConflictCopy} :
    occupied ∈ request.occupied.filter (fun occupied =>
      occupied.normalizedCollisionKey = name.normalizedCollisionKey) ↔
      Collides request name occupied := by
  rw [List.mem_filter, decide_eq_true_eq, Collides]

theorem all_isOwnCopy_iff {name : ConflictCopyName} :
    ((request.occupied.filter fun occupied =>
      occupied.normalizedCollisionKey = name.normalizedCollisionKey).all fun occupied =>
        occupied.conflictId == request.conflictId &&
          occupied.expectedContent == request.expectedContent) = true ↔
      Unblocked request name := by
  rw [List.all_eq_true, Unblocked]
  refine forall_congr' fun occupied => ?_
  rw [mem_collisions_iff, Bool.and_eq_true, beq_iff_eq, beq_iff_eq, IsOwnCopy]

/-- The search goes on exactly past the names a foreign entry occupies. -/
theorem decideName_eq_none_iff {name : ConflictCopyName} :
    decideName request name = none ↔ ¬ Unblocked request name := by
  rw [← all_isOwnCopy_iff, decideName]
  cases hfound : request.occupied.filter fun occupied =>
      occupied.normalizedCollisionKey = name.normalizedCollisionKey with
  | nil => simp
  | cons first rest =>
      dsimp only
      split
      · rename_i hall
        rw [hall]
        split <;> simp
      · rename_i hall
        simpa using hall

/-- A name of its own the search settles in one of three ways. -/
theorem decideName_of_unblocked {name : ConflictCopyName} (h : Unblocked request name) :
    (decideName request name = some (.create name) ∧ ∀ occupied, ¬ Collides request name occupied) ∨
    (decideName request name = some (.needsReconcile .invalidOccupiedEvidence) ∧
      Contradictory request name) ∨
    ∃ first, Collides request name first ∧
      decideName request name =
        some (.reuse { name with existingObjectId := some first.objectId }) ∧
      ¬ Contradictory request name := by
  have hall := all_isOwnCopy_iff.mpr h
  have hmem : ∀ occupied, occupied ∈ request.occupied.filter (fun occupied =>
      occupied.normalizedCollisionKey = name.normalizedCollisionKey) ↔
      Collides request name occupied := fun _ => mem_collisions_iff
  rw [decideName]
  cases hfound : request.occupied.filter fun occupied =>
      occupied.normalizedCollisionKey = name.normalizedCollisionKey with
  | nil =>
      rw [hfound] at hmem
      exact Or.inl ⟨rfl, fun occupied hc => absurd ((hmem occupied).mpr hc) List.not_mem_nil⟩
  | cons first rest =>
      rw [hfound] at hall hmem
      have hfirst : Collides request name first := (hmem first).mp List.mem_cons_self
      dsimp only
      rw [if_pos hall]
      refine Or.inr ?_
      split
      · rename_i hany
        obtain ⟨other, hother, hdiffers⟩ := List.any_eq_true.mp hany
        rw [Bool.or_eq_true, bne_iff_ne, bne_iff_ne] at hdiffers
        exact Or.inl ⟨rfl, other, first, (hmem other).mp hother, hfirst, hdiffers⟩
      · rename_i hany
        refine Or.inr ⟨first, hfirst, rfl, ?_⟩
        rintro ⟨a, b, ha, hb, hdiffers⟩
        -- every entry agrees with the first one and with the name
        have hagree : ∀ o, Collides request name o →
            o.objectId = first.objectId ∧ o.destinationPath = name.destinationPath := by
          intro o ho
          by_contra hne
          refine hany (List.any_eq_true.mpr ⟨o, (hmem o).mpr ho, ?_⟩)
          rw [Bool.or_eq_true, bne_iff_ne, bne_iff_ne]
          exact not_and_or.mp hne
        rcases hdiffers with hid | hpath
        · exact hid ((hagree a ha).1.trans (hagree b hb).1.symm)
        · exact hpath (hagree a ha).2

/-- The name the search tries is the text its collision key is computed from. -/
theorem normalizedCollisionKey_of_candidateName {stem extension : Text} {prefixLength : ℕ}
    {name : ConflictCopyName}
    (h : candidateName u sha256 request stem extension prefixLength = .ok name) :
    normalizedCollisionKey u sha256 name.destinationPath.toList =
      .ok name.normalizedCollisionKey := by
  rw [candidateName] at h
  split at h
  · cases h
  · rename_i candidate _
    split at h
    · cases h
    · rename_i key hkey
      injection h with h
      subst h
      rw [String.toList_ofList]
      exact hkey

/-- A valid entry with the path of a name occupies it. -/
theorem collides_of_destinationPath_eq {stem extension : Text} {prefixLength : ℕ}
    {name : ConflictCopyName} {copy : OccupiedConflictCopy}
    (h : candidateName u sha256 request stem extension prefixLength = .ok name)
    (hcopy : copy ∈ request.occupied) (hvalid : validOccupied u sha256 copy = true)
    (hpath : copy.destinationPath = name.destinationPath) : Collides request name copy := by
  refine ⟨hcopy, ?_⟩
  have hkey : normalizedCollisionKey u sha256 copy.destinationPath.toList =
      .ok copy.normalizedCollisionKey := by
    rw [validOccupied, Bool.and_eq_true, decide_eq_true_eq] at hvalid
    exact hvalid.2
  rw [hpath, normalizedCollisionKey_of_candidateName h] at hkey
  injection hkey with hkey
  exact hkey.symm

/-- What the search decides at the first unblocked name keeps a copy exactly when
the copy sits there or the entries there contradict each other. -/
theorem keepsCopy_decideName_iff {stem extension : Text} {prefixLength : ℕ}
    {name : ConflictCopyName} {copy : OccupiedConflictCopy}
    {outcome : ConflictCopyNameOutcome}
    (hbuilt : candidateName u sha256 request stem extension prefixLength = .ok name)
    (hunblocked : Unblocked request name) (hdecide : decideName request name = some outcome)
    (hcopy : copy ∈ request.occupied) (hvalid : validOccupied u sha256 copy = true) :
    KeepsCopy copy outcome ↔
      copy.destinationPath = name.destinationPath ∨ Contradictory request name := by
  have hsits := collides_of_destinationPath_eq hbuilt hcopy hvalid
  obtain ⟨hcreate, hfree⟩ | ⟨hfail, hbad⟩ | ⟨first, hfirst, hreuse, hgood⟩ :=
    decideName_of_unblocked hunblocked
  · rw [hdecide, Option.some.injEq] at hcreate
    subst hcreate
    refine iff_of_false id ?_
    rintro (hpath | ⟨a, _, ha, -⟩)
    · exact hfree copy (hsits hpath)
    · exact hfree a ha
  · rw [hdecide, Option.some.injEq] at hfail
    subst hfail
    exact iff_of_true trivial (Or.inr hbad)
  · rw [hdecide, Option.some.injEq] at hreuse
    subst hreuse
    rw [or_iff_left hgood]
    constructor
    · exact fun h => h.1.symm
    · intro hpath
      refine ⟨hpath.symm, congrArg some ?_⟩
      by_contra hne
      exact hgood ⟨first, copy, hfirst, hsits hpath, Or.inl hne⟩

/-! ## The whole search -/

/-- By induction on the lengths still to try: the search keeps a copy exactly when
the first unblocked name, if there is one, is the name of the copy or is
contradictory. -/
theorem keepsCopy_searchPrefixes_iff {stem extension : Text} {copy : OccupiedConflictCopy}
    (hcopy : copy ∈ request.occupied) (hvalid : validOccupied u sha256 copy = true)
    (lengths : List ℕ) :
    KeepsCopy copy (searchPrefixes u sha256 request stem extension lengths) ↔
      ∀ name, FirstUnblocked u sha256 request stem extension lengths name →
        copy.destinationPath = name.destinationPath ∨ Contradictory request name := by
  induction lengths with
  | nil => exact iff_of_true trivial fun name h => nomatch h
  | cons prefixLength rest ih =>
      rw [searchPrefixes]
      cases hbuilt : candidateName u sha256 request stem extension prefixLength with
      | error failure =>
          refine iff_of_true trivial fun name h => ?_
          cases h with
          | here built => exact absurd (hbuilt.symm.trans built) (by simp)
          | later built => exact absurd (hbuilt.symm.trans built) (by simp)
      | ok name =>
          dsimp only
          cases hdecide : decideName request name with
          | none =>
              have hblocked := decideName_eq_none_iff.mp hdecide
              rw [ih]
              constructor
              · intro h other hother
                cases hother with
                | here built unblocked =>
                    rw [hbuilt, Except.ok.injEq] at built
                    exact absurd (built ▸ unblocked) hblocked
                | later _ _ next => exact h other next
              · exact fun h other hother => h other (.later hbuilt hblocked hother)
          | some outcome =>
              have hunblocked : Unblocked request name := by
                by_contra hblocked
                rw [decideName_eq_none_iff.mpr hblocked] at hdecide
                exact nomatch hdecide
              rw [keepsCopy_decideName_iff hbuilt hunblocked hdecide hcopy hvalid]
              constructor
              · intro h other hother
                cases hother with
                | here built _ =>
                    rw [hbuilt, Except.ok.injEq] at built
                    exact built ▸ h
                | later built blocked _ =>
                    rw [hbuilt, Except.ok.injEq] at built
                    exact absurd hunblocked (built ▸ blocked)
              · exact fun h => h name (.here hbuilt hunblocked)

/-- An accepted request is answered by the search. -/
theorem resolveConflictCopyName_of_accepted {source : VaultPath u}
    (h : RequestAccepted u sha256 request source) :
    resolveConflictCopyName u sha256 request =
      searchPrefixes u sha256 request (splitExtension (sourceName u source)).1
        (splitExtension (sourceName u source)).2 prefixLengths := by
  have hoccupied : ¬ (4096 < request.occupied.length ∨
      request.occupied.any (fun occupied => !validOccupied u sha256 occupied) = true) := by
    rintro (hmany | hany)
    · exact absurd h.few (by omega)
    · obtain ⟨occupied, hmem, hinvalid⟩ := List.any_eq_true.mp hany
      rw [h.occupied occupied hmem] at hinvalid
      exact nomatch hinvalid
  have hparent : ¬ (request.destinationParentPath.any fun parent =>
      (exactVaultPath u parent.toList).isNone) = true := by
    rw [Option.any_eq_true]
    rintro ⟨parent, hmem, hnone⟩
    have hsome := h.parent parent hmem
    rw [Option.isNone_iff_eq_none.mp hnone] at hsome
    exact nomatch hsome
  rw [resolveConflictCopyName, if_neg (not_not.mpr h.naming), if_neg (by simp [h.conflictId]),
    if_neg (by simp [h.content]), if_neg hoccupied, h.source]
  dsimp only
  rw [if_neg hparent]

/-- Any other request needs reconciliation. -/
theorem resolveConflictCopyName_of_not_accepted
    (h : ∀ source, ¬ RequestAccepted u sha256 request source) :
    ∃ failure, resolveConflictCopyName u sha256 request = .needsReconcile failure := by
  rw [resolveConflictCopyName]
  split
  · exact ⟨_, rfl⟩
  rename_i hnaming
  split
  · exact ⟨_, rfl⟩
  rename_i hid
  split
  · exact ⟨_, rfl⟩
  rename_i hcontent
  split
  · exact ⟨_, rfl⟩
  rename_i hoccupied
  rw [not_or, not_lt] at hoccupied
  split
  · exact ⟨_, rfl⟩
  rename_i source hsource
  split
  · exact ⟨_, rfl⟩
  rename_i hparent
  refine absurd ?_ (h source)
  refine
    { naming := not_not.mp hnaming
      conflictId := by simpa using hid
      content := by simpa using hcontent
      few := hoccupied.1
      occupied := fun occupied hmem => ?_
      source := hsource
      parent := fun parent hmem => ?_ }
  · have hall := hoccupied.2
    rw [List.any_eq_true, not_exists] at hall
    simpa [hmem] using hall occupied
  · rw [Option.any_eq_true, not_exists] at hparent
    rw [Option.isSome_iff_ne_none]
    simpa [Option.mem_def.mp hmem] using hparent parent

/-- **A copy the conflict already has is found again exactly at the first unblocked name.**
Going through the prefix lengths in order, the first name no foreign entry
occupies decides: the copy itself has to sit there, or the entries there have to
contradict each other. -/
theorem finds_own_copy_iff (copy : OccupiedConflictCopy) (hcopy : copy ∈ request.occupied) :
    KeepsCopy copy (resolveConflictCopyName u sha256 request) ↔
      ∀ source, RequestAccepted u sha256 request source →
        ∀ name, FirstUnblocked u sha256 request (splitExtension (sourceName u source)).1
            (splitExtension (sourceName u source)).2 prefixLengths name →
          copy.destinationPath = name.destinationPath ∨ Contradictory request name := by
  by_cases haccepted : ∃ source, RequestAccepted u sha256 request source
  · obtain ⟨source, haccepted⟩ := haccepted
    rw [resolveConflictCopyName_of_accepted haccepted,
      keepsCopy_searchPrefixes_iff hcopy (haccepted.occupied copy hcopy)]
    constructor
    · intro h source' haccepted'
      have hsource : source = source' :=
        Option.some.inj (haccepted.source.symm.trans haccepted'.source)
      subst hsource
      exact h
    · exact fun h => h source haccepted
  · rw [not_exists] at haccepted
    obtain ⟨failure, hfailure⟩ := resolveConflictCopyName_of_not_accepted haccepted
    rw [hfailure]
    exact iff_of_true trivial fun source h => absurd h (haccepted source)

/-! ## A copy that is not found again -/

/-- The SHA-256 digest of the collision stream of `note (conflict 0123456789ab).md`. -/
def shortNameDigest : List.Vector UInt8 32 := ⟨
  [0x12, 0x9c, 0x67, 0x04, 0x3e, 0x55, 0xb2, 0xb5, 0x90, 0x08, 0x47,
   0xf1, 0x9c, 0xab, 0x31, 0xa1, 0x72, 0x8c, 0x04, 0x90, 0x11, 0x80,
   0x0b, 0x33, 0xd2, 0xb1, 0x32, 0xbf, 0xf2, 0x63, 0xf4, 0xea], rfl⟩

/-- The SHA-256 digest of the collision stream of `note (conflict 0123456789abcdef).md`. -/
def longNameDigest : List.Vector UInt8 32 := ⟨
  [0xd2, 0xa3, 0xed, 0x39, 0xdb, 0xf7, 0x93, 0x40, 0xbf, 0x5e, 0x97,
   0x44, 0x41, 0x50, 0x1e, 0x8f, 0xd9, 0x2b, 0x72, 0xe6, 0xab, 0x01,
   0x8b, 0x6f, 0x71, 0x0a, 0x81, 0x5c, 0x62, 0xc2, 0x4f, 0xb8], rfl⟩

/-- SHA-256 on the two collision streams, which differ in length. -/
def nameDigest : Sha256 := fun stream =>
  if stream.length = 39 then shortNameDigest else longNameDigest

/-- An id whose prefixes of 12 and 16 characters differ. -/
def sampleConflictId : String := "0123456789abcdef0123456789abcdef0123456789abcdef0123456789abcdef"

/-- The content of the copy. -/
def sampleContent : ContentFingerprint where
  sha256 := "aaaaaaaaaaaaaaaaaaaaaaaaaaaaaaaaaaaaaaaaaaaaaaaaaaaaaaaaaaaaaaaa"
  byteLength := 5

/-- The two names of a copy of `note.md`, with the keys they have. -/
def shortName : ConflictCopyName where
  destinationPath := "note (conflict 0123456789ab).md"
  normalizedCollisionKey := "129c67043e55b2b5900847f19cab31a1728c049011800b33d2b132bff263f4ea"
  idPrefixLength := 12
  existingObjectId := none

/-- The name of the copy with a prefix of 16 characters. -/
def longName : ConflictCopyName where
  destinationPath := "note (conflict 0123456789abcdef).md"
  normalizedCollisionKey := "d2a3ed39dbf79340bf5e974441501e8fd92b72e6ab018b6f710a815c62c24fb8"
  idPrefixLength := 16
  existingObjectId := none

/-- The copy of the conflict under one of its names. -/
def copyAt (name : ConflictCopyName) (conflictId : String) : OccupiedConflictCopy where
  normalizedCollisionKey := name.normalizedCollisionKey
  conflictId := conflictId
  expectedContent := sampleContent
  destinationPath := name.destinationPath
  objectId := "copy-1"

/-- A request for the name of a copy of `note.md`. -/
def copyRequest (occupied : List OccupiedConflictCopy) : ConflictCopyNameRequest where
  conflictId := sampleConflictId
  sourcePath := "note.md"
  destinationParentPath := none
  expectedContent := sampleContent
  namingVersion := conflictNamingVersion
  occupied := occupied

/-- The entry of another conflict under the short name. -/
def foreignCopy : OccupiedConflictCopy :=
  copyAt shortName "ffffffffffffffffffffffffffffffffffffffffffffffffffffffffffffffff"

/-- The first run has to step aside for a foreign file and creates its copy under
the long name.  When the foreign file is gone, the next run does not look that far
and creates a second copy under the short name. -/
theorem rerun_creates_a_second_copy :
    resolveConflictCopyName Unicode.ascii nameDigest (copyRequest [foreignCopy]) =
        .create longName ∧
      copyAt longName sampleConflictId ∈
        (copyRequest [copyAt longName sampleConflictId]).occupied ∧
      IsOwnCopy (copyRequest [copyAt longName sampleConflictId])
        (copyAt longName sampleConflictId) ∧
      SitsAtCandidate Unicode.ascii nameDigest (copyRequest [copyAt longName sampleConflictId])
        (copyAt longName sampleConflictId) ∧
      resolveConflictCopyName Unicode.ascii nameDigest
          (copyRequest [copyAt longName sampleConflictId]) = .create shortName := by
  refine ⟨by decide +kernel, List.mem_cons_self, ⟨rfl, rfl⟩, ?_, by decide +kernel⟩
  have hsource : (exactVaultPath Unicode.ascii "note.md".toList).isSome = true := by decide
  refine ⟨(exactVaultPath Unicode.ascii "note.md".toList).get hsource, ?_, 16, by decide, longName,
    by decide +revert, rfl⟩
  refine
    { naming := rfl
      conflictId := by decide
      content := by decide
      few := by decide
      occupied := by decide
      source := (Option.some_get hsource).symm
      parent := by simp [copyRequest] }

/-- Under the short name the copy is found again. -/
theorem finds_own_copy_iff_short_name :
    resolveConflictCopyName Unicode.ascii nameDigest
        (copyRequest [copyAt shortName sampleConflictId]) =
      .reuse { shortName with existingObjectId := some "copy-1" } ∧
    ∀ source, RequestAccepted Unicode.ascii nameDigest
        (copyRequest [copyAt shortName sampleConflictId]) source →
      ∀ name, FirstUnblocked Unicode.ascii nameDigest
          (copyRequest [copyAt shortName sampleConflictId])
          (splitExtension (sourceName Unicode.ascii source)).1
          (splitExtension (sourceName Unicode.ascii source)).2 prefixLengths name →
        (copyAt shortName sampleConflictId).destinationPath = name.destinationPath ∨
          Contradictory (copyRequest [copyAt shortName sampleConflictId]) name := by
  have hreuse : resolveConflictCopyName Unicode.ascii nameDigest
      (copyRequest [copyAt shortName sampleConflictId]) =
        .reuse { shortName with existingObjectId := some "copy-1" } := by decide +kernel
  refine ⟨hreuse, (finds_own_copy_iff (copyAt shortName sampleConflictId)
    List.mem_cons_self).mp ?_⟩
  rw [hreuse]
  exact ⟨rfl, rfl⟩

end Conflict
end MyVault
