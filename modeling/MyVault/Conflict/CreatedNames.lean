import MyVault.Conflict.Registrable

/-!
# The name a run creates is the name the next run reuses

`resolve_conflict_copy_name` answers `Create` at the first name no entry occupies, after
names that are each taken by an entry of another conflict or content.  The entry written
for the new name has a collision key none of these has, so it changes nothing for the
names tried before, and at its own name it is alone: the next run stops there and finds it
(`created_name_is_reused`).

## The next run

`createdEntry` is what a run that creates a name records, and `withOccupied` is the request of a
run that finds it.  Each name tried before was taken by an entry of another conflict or of other
content (`TakenByOther`).  These entries are still there, so the next run passes over the same
names (`TakenByOther.withOccupied`), and at the created one it finds the entry alone.

A candidate lies directly under the requested parent (`LiesDirectlyUnder`), and its last component
is some of the stem of the source, the id of the conflict and the extension (`IsCopyComponent`).
That makes it a name of its own for every prefix, and keeps it outside the protected folders
(`isContentPath_of_create`).
-/

namespace MyVault
namespace Conflict

open Store VaultPath

section Names

variable (u : Unicode) (sha256 : Sha256) (request : ConflictCopyNameRequest)

/-- An entry of another conflict or of other content occupies the name. -/
def TakenByOther (name : ConflictCopyName) : Prop :=
  ∃ occupied, Collides request name occupied ∧ ¬ IsOwnCopy request occupied

/-- The last component of a copy of `source`: some of its stem, the conflict id, its
extension. -/
def IsCopyComponent (source : VaultPath u) (prefixLength : ℕ) (component : Text) : Prop :=
  ∃ stem, stem <+: (splitExtension (sourceName u source)).1 ∧
    component = stem ++ conflictSuffix request.conflictId prefixLength ++
      (splitExtension (sourceName u source)).2

/-- `path` is the entry `component` of the folder `parent`, of the root when there is none. -/
def LiesDirectlyUnder (parent : Option String) (path : VaultPath u) (component : Text) : Prop :=
  match parent with
  | none => path.components = [component]
  | some parent => ∃ folder : VaultPath u, exactVaultPath u parent.toList = some folder ∧
      path.components = folder.components ++ [component]

/-- What a run that creates `name` records for the next one. -/
def createdEntry (name : ConflictCopyName) (objectId : String) : OccupiedConflictCopy where
  normalizedCollisionKey := name.normalizedCollisionKey
  conflictId := request.conflictId
  expectedContent := request.expectedContent
  destinationPath := name.destinationPath
  objectId := objectId

/-- The request of a run that finds `occupied`. -/
def withOccupied (occupied : List OccupiedConflictCopy) : ConflictCopyNameRequest :=
  { request with occupied := occupied }

end Names

variable {u : Unicode} {sha256 : Sha256} {request : ConflictCopyNameRequest}

theorem not_unblocked_iff {name : ConflictCopyName} :
    ¬ Unblocked request name ↔ TakenByOther request name := by
  simp only [Unblocked, TakenByOther, not_forall, exists_prop]

theorem candidateName_withOccupied {stem extension : Text} {prefixLength : ℕ}
    {occupied : List OccupiedConflictCopy} :
    candidateName u sha256 (withOccupied request occupied) stem extension prefixLength =
      candidateName u sha256 request stem extension prefixLength := rfl

/-! ## The path of a candidate -/

theorem splitExtension_append (name : Text) :
    (splitExtension name).1 ++ (splitExtension name).2 = name := by
  rw [splitExtension]
  split
  · exact List.append_nil name
  · split
    · exact List.append_nil name
    · exact List.take_append_drop _ name

theorem notMem_sourceName (source : VaultPath u) : '/' ∉ sourceName u source := by
  rw [sourceName, splitOn_asStr]
  cases hlast : source.components.getLast? with
  | none => exact absurd (List.getLast?_eq_none_iff.mp hlast) source.fits.1
  | some name => exact (source.named name (List.mem_of_getLast? hlast)).2.2

theorem notMem_conflictSuffix {conflictId : String} (h : isLowerHex64 conflictId = true)
    (prefixLength : ℕ) : '/' ∉ conflictSuffix conflictId prefixLength := by
  rw [isLowerHex64, Bool.and_eq_true, List.all_eq_true] at h
  have hid : '/' ∉ conflictId.toList.take prefixLength := by
    intro hmem
    have hhex := h.2 '/' (List.mem_of_mem_take hmem)
    revert hhex
    decide
  have hopen : '/' ∉ " (conflict ".toList := by decide
  intro hmem
  rcases List.mem_append.mp hmem with hmem | hmem
  · rcases List.mem_append.mp hmem with hmem | hmem
    · exact hopen hmem
    · exact hid hmem
  · simp at hmem

theorem IsCopyComponent.notMem {source : VaultPath u} {prefixLength : ℕ} {component : Text}
    (hid : isLowerHex64 request.conflictId = true)
    (h : IsCopyComponent u request source prefixLength component) : '/' ∉ component := by
  obtain ⟨stem, hstem, rfl⟩ := h
  have hname : '/' ∉ (splitExtension (sourceName u source)).1 ++
      (splitExtension (sourceName u source)).2 :=
    (splitExtension_append _).symm ▸ notMem_sourceName source
  rw [List.mem_append, not_or] at hname
  rw [List.mem_append, List.mem_append, not_or, not_or]
  exact ⟨⟨fun hmem => hname.1 (hstem.subset hmem), notMem_conflictSuffix hid prefixLength⟩, hname.2⟩

/-- By induction on the characters of the stem that are left: what is built is the candidate
of one truncation. -/
theorem buildFrom_eq_some {parent : Option Text} {stem extension suffix : Text} {n : ℕ}
    {path : VaultPath u} (h : buildFrom u parent stem extension suffix n = some path) :
    ∃ m, exactVaultPath u (candidatePath parent (stem.take m) extension suffix) = some path := by
  induction n with
  | zero => exact ⟨0, h⟩
  | succ n ih =>
      rw [buildFrom] at h
      split at h
      · rename_i found hfound
        cases h
        exact ⟨n + 1, hfound⟩
      · exact ih h

/-- A candidate lies directly under the parent of the request. -/
theorem liesDirectlyUnder_of_candidate {parent : Option String} {stem extension suffix : Text}
    {path : VaultPath u} (hslash : '/' ∉ stem ++ suffix ++ extension)
    (hparent : ∀ folder ∈ parent, (exactVaultPath u folder.toList).isSome = true)
    (h : exactVaultPath u (candidatePath (parent.map String.toList) stem extension suffix) =
      some path) :
    LiesDirectlyUnder u parent path (stem ++ suffix ++ extension) := by
  have hsplit : path.components =
      splitSlash (candidatePath (parent.map String.toList) stem extension suffix) := by
    rw [← (exactVaultPath_eq_some h).2.1, splitOn_asStr]
  cases parent with
  | none =>
      rw [LiesDirectlyUnder, hsplit, Option.map_none, candidatePath, splitSlash]
      have hnames : ∀ c ∈ [stem ++ suffix ++ extension], '/' ∉ c := by
        intro c hc
        rwa [List.mem_singleton.mp hc]
      have hsplit := List.splitOn_intercalate '/' hnames (List.cons_ne_nil _ _)
      rwa [List.intercalate_singleton] at hsplit
  | some parent =>
      obtain ⟨folder, hfolder⟩ := Option.isSome_iff_exists.mp (hparent parent rfl)
      refine ⟨folder, hfolder, ?_⟩
      have hjoin : candidatePath (some parent.toList) stem extension suffix =
          joinSlash (folder.components ++ [stem ++ suffix ++ extension]) := by
        rw [joinSlash_concat folder.fits.1, candidatePath, ← (exactVaultPath_eq_some hfolder).2.1]
        rfl
      rw [hsplit, Option.map_some, hjoin]
      refine List.splitOn_intercalate '/' (fun c hc => ?_) (by simp)
      rcases List.mem_append.mp hc with hc | hc
      · exact (folder.named c hc).2.2
      · rwa [List.mem_singleton.mp hc]

/-- The path a candidate name has. -/
theorem path_of_candidateName {source : VaultPath u} {prefixLength : ℕ} {name : ConflictCopyName}
    (haccepted : RequestAccepted u sha256 request source)
    (h : candidateName u sha256 request (splitExtension (sourceName u source)).1
      (splitExtension (sourceName u source)).2 prefixLength = .ok name) :
    name.idPrefixLength = prefixLength ∧ ∃ path component,
      exactVaultPath u name.destinationPath.toList = some path ∧
      LiesDirectlyUnder u request.destinationParentPath path component ∧
      IsCopyComponent u request source prefixLength component := by
  rw [candidateName] at h
  split at h
  · cases h
  · rename_i path hbuilt
    split at h
    · cases h
    · cases h
      obtain ⟨m, hpath⟩ := buildFrom_eq_some hbuilt
      have hcopy : IsCopyComponent u request source prefixLength _ :=
        ⟨(splitExtension (sourceName u source)).1.take m, List.take_prefix _ _, rfl⟩
      refine ⟨rfl, path, _, ?_, liesDirectlyUnder_of_candidate
        (hcopy.notMem haccepted.conflictId) haccepted.parent hpath, hcopy⟩
      dsimp only
      rw [String.toList_ofList, (exactVaultPath_eq_some hpath).2.1]
      exact hpath

/-! ## Where the search creates -/

/-- By induction on the lengths: the name created is the candidate of one of them, no entry
occupies it, and those tried before are taken. -/
theorem searchPrefixes_create {stem extension : Text} {name : ConflictCopyName}
    {lengths : List ℕ}
    (h : searchPrefixes u sha256 request stem extension lengths = .create name) :
    ∃ tried prefixLength rest, lengths = tried ++ prefixLength :: rest ∧
      candidateName u sha256 request stem extension prefixLength = .ok name ∧
      (∀ occupied, ¬ Collides request name occupied) ∧
      ∀ smaller ∈ tried, ∃ other,
        candidateName u sha256 request stem extension smaller = .ok other ∧
        TakenByOther request other := by
  induction lengths with
  | nil => cases h
  | cons prefixLength rest ih =>
      rw [searchPrefixes] at h
      split at h
      · cases h
      · rename_i found hfound
        split at h
        · rename_i outcome hdecide
          subst h
          obtain rfl := eq_of_decideName_create hdecide
          refine ⟨[], prefixLength, rest, rfl, hfound, ?_, by simp⟩
          by_cases hunblocked : Unblocked request name
          · obtain ⟨-, hfree⟩ | ⟨hfail, -⟩ | ⟨first, -, hreuse, -⟩ :=
              decideName_of_unblocked hunblocked
            · exact hfree
            · rw [hdecide] at hfail
              cases hfail
            · rw [hdecide] at hreuse
              cases hreuse
          · rw [decideName_eq_none_iff.mpr hunblocked] at hdecide
            cases hdecide
        · rename_i hdecide
          obtain ⟨tried, length, others, rfl, hcandidate, hfree, htaken⟩ := ih h
          refine ⟨prefixLength :: tried, length, others, rfl, hcandidate, hfree, ?_⟩
          intro smaller hsmaller
          rcases List.mem_cons.mp hsmaller with rfl | hsmaller
          · exact ⟨found, hfound, not_unblocked_iff.mp (decideName_eq_none_iff.mp hdecide)⟩
          · exact htaken smaller hsmaller

/-- The search goes past the names that are taken. -/
theorem searchPrefixes_of_taken {stem extension : Text} {tried rest : List ℕ}
    (h : ∀ smaller ∈ tried, ∃ other,
      candidateName u sha256 request stem extension smaller = .ok other ∧
      TakenByOther request other) :
    searchPrefixes u sha256 request stem extension (tried ++ rest) =
      searchPrefixes u sha256 request stem extension rest := by
  induction tried with
  | nil => rfl
  | cons smaller tried ih =>
      obtain ⟨other, hother, htaken⟩ := h smaller List.mem_cons_self
      rw [List.cons_append, searchPrefixes, hother]
      dsimp only
      rw [decideName_eq_none_iff.mpr (not_unblocked_iff.mpr htaken)]
      exact ih fun length hlength => h length (List.mem_cons_of_mem _ hlength)

/-! ## The next run -/

section Rerun

variable {name : ConflictCopyName} {objectId : String} {front back : List OccupiedConflictCopy}

theorem TakenByOther.withOccupied {other : ConflictCopyName} {occupied : List OccupiedConflictCopy}
    (h : TakenByOther request other) (hsubset : request.occupied ⊆ occupied) :
    TakenByOther (withOccupied request occupied) other := by
  obtain ⟨found, ⟨hmem, hkey⟩, hother⟩ := h
  exact ⟨found, ⟨hsubset hmem, hkey⟩, hother⟩

/-- At its own name the new entry is alone. -/
theorem decideName_createdEntry (hoccupied : request.occupied = front ++ back)
    (hfree : ∀ occupied, ¬ Collides request name occupied) :
    decideName (withOccupied request (front ++ createdEntry request name objectId :: back)) name =
      some (.reuse { name with existingObjectId := some objectId }) := by
  have honly : ∀ occupied, Collides
      (withOccupied request (front ++ createdEntry request name objectId :: back)) name occupied →
      occupied = createdEntry request name objectId := by
    rintro occupied ⟨hmem, hkey⟩
    by_contra hne
    refine hfree occupied ⟨?_, hkey⟩
    rw [Conflict.withOccupied, List.mem_append, List.mem_cons] at hmem
    rw [hoccupied, List.mem_append]
    rcases hmem with hmem | hmem | hmem
    · exact Or.inl hmem
    · exact absurd hmem hne
    · exact Or.inr hmem
  have hentry : Collides
      (withOccupied request (front ++ createdEntry request name objectId :: back)) name
      (createdEntry request name objectId) := ⟨by simp [Conflict.withOccupied], rfl⟩
  have hunblocked : Unblocked
      (withOccupied request (front ++ createdEntry request name objectId :: back)) name := by
    intro occupied hcollides
    rw [honly occupied hcollides]
    exact ⟨rfl, rfl⟩
  obtain ⟨-, hnone⟩ | ⟨-, first, second, hfirst, hsecond, hdiffer⟩ | ⟨first, hfirst, hreuse, -⟩ :=
    decideName_of_unblocked hunblocked
  · exact absurd hentry (hnone _)
  · rw [honly first hfirst, honly second hsecond] at hdiffer
    rcases hdiffer with hdiffer | hdiffer
    · exact absurd rfl hdiffer
    · exact absurd rfl hdiffer
  · rw [hreuse, honly first hfirst]
    rfl

/-- The next run's request is accepted. -/
theorem requestAccepted_withOccupied {source : VaultPath u}
    (haccepted : RequestAccepted u sha256 request source)
    (hoccupied : request.occupied = front ++ back) (hfew : request.occupied.length < 4096)
    (hobject : isRemoteId objectId = true)
    (hkey : normalizedCollisionKey u sha256 name.destinationPath.toList =
      .ok name.normalizedCollisionKey) :
    RequestAccepted u sha256
      (withOccupied request (front ++ createdEntry request name objectId :: back)) source := by
  refine { haccepted with few := ?_, occupied := ?_ }
  · rw [hoccupied, List.length_append] at hfew
    rw [withOccupied, List.length_append, List.length_cons]
    omega
  · intro occupied hmem
    rw [withOccupied, List.mem_append, List.mem_cons] at hmem
    rcases hmem with hmem | rfl | hmem
    · exact haccepted.occupied occupied (hoccupied ▸ List.mem_append_left _ hmem)
    · have hhex : isLowerHex64 name.normalizedCollisionKey = true := by
        rw [normalizedCollisionKey] at hkey
        split at hkey
        · cases hkey
        · split at hkey
          · cases hkey
          · rw [Except.ok.injEq] at hkey
            rw [← hkey]
            exact isLowerHex64_hexSha256 _ _
      simp only [validOccupied, createdEntry, hhex, haccepted.conflictId, haccepted.content,
        hobject, hkey, decide_true, Bool.and_self]
    · exact haccepted.occupied occupied (hoccupied ▸ List.mem_append_right _ hmem)

end Rerun

/-- The lengths are tried from the shortest to the longest. -/
theorem mem_tried_of_lt {tried rest : List ℕ} {prefixLength smaller : ℕ}
    (h : prefixLengths = tried ++ prefixLength :: rest) (hmem : smaller ∈ prefixLengths)
    (hlt : smaller < prefixLength) : smaller ∈ tried := by
  have hsorted : prefixLengths.Pairwise (· < ·) := by decide
  rw [h, List.mem_append, List.mem_cons] at hmem
  rw [h, List.pairwise_append, List.pairwise_cons] at hsorted
  rcases hmem with hmem | rfl | hmem
  · exact hmem
  · exact absurd hlt (lt_irrefl _)
  · exact absurd hlt (hsorted.2.1.1 smaller hmem).not_gt

/-- **A created name is a free path directly under the requested parent, and the next run
reuses it.** -/
theorem created_name_is_reused {name : ConflictCopyName}
    (h : resolveConflictCopyName u sha256 request = .create name) :
    ∃ source, exactVaultPath u request.sourcePath.toList = some source ∧
      (∃ path component, exactVaultPath u name.destinationPath.toList = some path ∧
        LiesDirectlyUnder u request.destinationParentPath path component ∧
        IsCopyComponent u request source name.idPrefixLength component) ∧
      isContentPath u name.destinationPath = true ∧
      name.idPrefixLength ∈ prefixLengths ∧
      (∀ occupied ∈ request.occupied,
        occupied.normalizedCollisionKey ≠ name.normalizedCollisionKey) ∧
      (∀ smaller ∈ prefixLengths, smaller < name.idPrefixLength → ∃ other,
        candidateName u sha256 request (splitExtension (sourceName u source)).1
          (splitExtension (sourceName u source)).2 smaller = .ok other ∧
        TakenByOther request other) ∧
      (request.occupied.length < 4096 → ∀ objectId, isRemoteId objectId = true →
        ∀ front back, request.occupied = front ++ back →
          resolveConflictCopyName u sha256
              (withOccupied request (front ++ createdEntry request name objectId :: back)) =
            .reuse { name with existingObjectId := some objectId }) := by
  have hcontent := isContentPath_of_create h
  by_cases haccepted : ∃ source, RequestAccepted u sha256 request source
  · obtain ⟨source, haccepted⟩ := haccepted
    rw [resolveConflictCopyName_of_accepted haccepted] at h
    obtain ⟨tried, prefixLength, rest, hlengths, hcandidate, hfree, htaken⟩ :=
      searchPrefixes_create h
    obtain ⟨rfl, hpath⟩ := path_of_candidateName haccepted hcandidate
    refine ⟨source, haccepted.source, hpath, hcontent, ?_, ?_, ?_, ?_⟩
    · rw [hlengths]
      exact List.mem_append_right _ List.mem_cons_self
    · exact fun occupied hmem hkey => hfree occupied ⟨hmem, hkey⟩
    · exact fun smaller hmem hlt => htaken smaller (mem_tried_of_lt hlengths hmem hlt)
    · intro hfew objectId hobject front back hoccupied
      have hnext := requestAccepted_withOccupied haccepted hoccupied hfew hobject
        (normalizedCollisionKey_of_candidateName hcandidate)
      have hsubset : request.occupied ⊆
          front ++ createdEntry request name objectId :: back := by
        rw [hoccupied]
        exact List.append_subset.mpr ⟨List.subset_append_left _ _,
          List.Subset.trans (List.subset_cons_self _ _) (List.subset_append_right _ _)⟩
      rw [resolveConflictCopyName_of_accepted hnext, hlengths, searchPrefixes_of_taken ?_,
        searchPrefixes, candidateName_withOccupied, hcandidate]
      · dsimp only
        rw [decideName_createdEntry hoccupied hfree]
      · intro smaller hsmaller
        obtain ⟨other, hother, hforeign⟩ := htaken smaller hsmaller
        exact ⟨other, hother, hforeign.withOccupied hsubset⟩
  · rw [not_exists] at haccepted
    obtain ⟨failure, hfailure⟩ := resolveConflictCopyName_of_not_accepted haccepted
    rw [hfailure] at h
    cases h

/-- The copy of `note.md` steps aside for a foreign file and is found again. -/
theorem created_name_is_reused_note :
    resolveConflictCopyName Unicode.ascii nameDigest (copyRequest [foreignCopy]) =
        .create longName ∧
      resolveConflictCopyName Unicode.ascii nameDigest
          (withOccupied (copyRequest [foreignCopy])
            ([foreignCopy] ++ [createdEntry (copyRequest [foreignCopy]) longName "copy-2"])) =
        .reuse { longName with existingObjectId := some "copy-2" } := by
  have h : resolveConflictCopyName Unicode.ascii nameDigest (copyRequest [foreignCopy]) =
      .create longName := by decide +kernel
  obtain ⟨-, -, -, -, -, -, -, hrerun⟩ := created_name_is_reused h
  exact ⟨h, hrerun (by decide) "copy-2" (by decide) [foreignCopy] [] rfl⟩

end Conflict
end MyVault
