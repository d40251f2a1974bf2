import MyVault.Conflict.Accepted
import MyVault.Conflict.Completable
import MyVault.Store.ValidIntents

/-!
# Which planned intents the store registers

The planner checks its context and the store checks the intent, each with rules of its
own.  They differ in two places.  The planner compares the normalized first component of
a path with the protected names, the store the part of it before a slash the
normalization has made; and the store wants the whole base of a blocked intent or none
of it.  Everything else the store asks for the planner has checked
(`validIntent_intentOf_iff`).

## The two path checks

`path_checks_agree_iff` is about one text.  Both checks accept canonical paths only, so what is
left is the first component: `HidesProtectedRoot` is one that normalizes to a protected name with
a slash behind it.  Which characters do that is up to the tables of Unicode, and the statement
holds for all of them.

`Registrable` is on the classification and the context.  Its first part speaks of the paths that
the drafts hand on to the store (`carriedPaths`); a copy that is reused has no intent, so its path
is handed on only where the copy is created (`CreatesCopy`).  The second part is about the base of
a blocked draft (`WholeBase`).  The ids of the operations are never nil (`NeverNil`), as UUIDs of
version 5 carry their version.
-/

namespace MyVault
namespace Conflict

open Store Check VaultPath

/-! ## The two path checks -/

section Paths

/-- Splitting starts with what stands before the first slash. -/
theorem head?_splitSlash (t : Text) : (splitSlash t).head? = some (t.takeWhile (· ≠ '/')) := by
  induction t with
  | nil => simp [splitSlash]
  | cons c t ih =>
      rw [splitSlash] at ih ⊢
      rw [List.splitOn_cons_eq_if_modifyHead]
      by_cases hc : c = '/'
      · simp [hc]
      · rw [if_neg (by simpa using hc)]
        cases hsplit : t.splitOn '/' with
        | nil => exact absurd hsplit (List.splitOn_ne_nil _ _)
        | cons y ys =>
            rw [hsplit, List.head?_cons, Option.some.injEq] at ih
            simp [hc, ih]

theorem takeWhile_append_slash (s t : Text) :
    (s ++ '/' :: t).takeWhile (· ≠ '/') = s.takeWhile (· ≠ '/') := by
  induction s with
  | nil => simp
  | cons c s ih => rw [List.cons_append, List.takeWhile_cons, List.takeWhile_cons, ih]

/-- A join starts with its first component, up to a slash in it. -/
theorem takeWhile_joinSlash (component : Text) (rest : List Text) :
    (joinSlash (component :: rest)).takeWhile (· ≠ '/') = component.takeWhile (· ≠ '/') := by
  cases rest with
  | nil => simp [joinSlash]
  | cons next rest =>
      have hjoin : joinSlash (component :: next :: rest) =
          component ++ '/' :: joinSlash (next :: rest) := by simp [joinSlash, List.intercalate]
      rw [hjoin, takeWhile_append_slash]

/-- The two roots no content lives under. -/
def protectedRoots : List Text := [".obsidian".toList, ".trash".toList]

/-- The first component normalizes to a protected name with a slash behind it. -/
def HidesProtectedRoot (u : Unicode) (value : String) : Prop :=
  ∃ component ∈ (splitSlash value.toList).head?, ∃ root ∈ protectedRoots,
    root ++ ['/'] <+: componentCollisionKey u component

/-- A text other than `root` is `root` up to its first slash exactly if it goes on there. -/
theorem takeWhile_eq_iff {root key : Text} (hroot : '/' ∉ root) (hne : key ≠ root) :
    key.takeWhile (· ≠ '/') = root ↔ root ++ ['/'] <+: key := by
  constructor
  · intro h
    have hsplit := List.takeWhile_append_dropWhile (p := (· ≠ '/')) (l := key)
    rw [h] at hsplit
    cases hdrop : key.dropWhile (· ≠ '/') with
    | nil =>
        rw [hdrop, List.append_nil] at hsplit
        exact absurd hsplit.symm hne
    | cons c rest =>
        have hc : c = '/' := by
          have hhead := List.head?_dropWhile_not (· ≠ '/') key
          rw [hdrop] at hhead
          simpa using hhead
        rw [← hsplit, hdrop, hc]
        exact ⟨rest, by simp⟩
  · rintro ⟨rest, rfl⟩
    have hall : ∀ c ∈ root, (decide (c ≠ '/')) = true := by
      intro c hc
      exact decide_eq_true fun h => hroot (h ▸ hc)
    rw [List.append_assoc, List.takeWhile_append_of_pos hall]
    simp

theorem notMem_protectedRoots : ∀ root ∈ protectedRoots, '/' ∉ root := by decide

variable {u : Unicode}

theorem exactVaultPath_eq_some {value : Text} {path : VaultPath u}
    (h : exactVaultPath u value = some path) :
    fromPortable u value = some path ∧ path.asStr = value ∧ isProtectedRoot u path = false := by
  rw [exactVaultPath] at h
  split at h
  · cases h
  · rename_i found hfound
    split at h
    · rename_i hexact
      cases h
      exact ⟨hfound, hexact⟩
    · cases h

/-- What the planner accepts the store accepts, unless a normalized slash hides a
protected root. -/
theorem isContentPath_iff {value : String} (h : isExactContentPath u value = true) :
    isContentPath u value = true ↔ ¬ HidesProtectedRoot u value := by
  obtain ⟨path, hpath⟩ := Option.isSome_iff_exists.mp h
  obtain ⟨hparse, hvalue, hroot⟩ := exactVaultPath_eq_some hpath
  have hsplit : splitSlash value.toList = path.components := by rw [← hvalue, splitOn_asStr]
  cases hcomponents : path.components with
  | nil => exact absurd hcomponents path.fits.1
  | cons component rest =>
      have hhead : (splitSlash path.asStr).head? = some component := by
        rw [splitOn_asStr, hcomponents, List.head?_cons]
      rw [isProtectedRoot, hhead] at hroot
      simp only [Bool.or_eq_false_iff, beq_eq_false_iff_ne] at hroot
      have hhides : HidesProtectedRoot u value ↔ ∃ root ∈ protectedRoots,
          (componentCollisionKey u component).takeWhile (· ≠ '/') = root := by
        rw [HidesProtectedRoot, hsplit, hcomponents]
        simp only [List.head?_cons, Option.mem_def, Option.some.injEq, exists_eq_left']
        refine exists_congr fun root => and_congr_right fun hmem => ?_
        refine (takeWhile_eq_iff (notMem_protectedRoots root hmem) ?_).symm
        rcases List.mem_pair.mp hmem with rfl | rfl
        · exact hroot.1
        · exact hroot.2
      rw [hhides, isContentPath, hparse, Option.any_some, isObsidianMetadata, hcomponents,
        collisionKey, hcomponents, List.map_cons, head?_splitSlash, takeWhile_joinSlash,
        List.head?_cons, Option.any_some]
      dsimp only
      rw [Option.any_some, beq_eq_false_iff_ne.mpr hroot.1]
      simp [hvalue, protectedRoots]

theorem isExactContentPath_of_open {value : String} {path : VaultPath u}
    (hparse : fromPortable u value.toList = some path) (hvalue : path.asStr = value.toList)
    (hopen : isProtectedRoot u path = false) : isExactContentPath u value = true := by
  rw [isExactContentPath, exactVaultPath, hparse]
  dsimp only
  rw [if_pos ⟨hvalue, hopen⟩, Option.isSome_some]

/-- The store accepts only what the planner accepts: what starts with a protected name is
that name up to a slash. -/
theorem isExactContentPath_of_isContentPath {value : String} (h : isContentPath u value = true) :
    isExactContentPath u value = true := by
  rw [isContentPath, Option.any_eq_true] at h
  obtain ⟨path, hparse, h⟩ := h
  dsimp only at h
  rw [Bool.and_eq_true, Bool.and_eq_true, beq_iff_eq, Bool.not_eq_true'] at h
  obtain ⟨⟨hvalue, -⟩, hroot⟩ := h
  have hopen : isProtectedRoot u path = false := by
    cases hcomponents : path.components with
    | nil => exact absurd hcomponents path.fits.1
    | cons component rest =>
        rw [collisionKey, hcomponents, List.map_cons, head?_splitSlash, takeWhile_joinSlash,
          Option.any_some] at hroot
        rw [isProtectedRoot, splitOn_asStr, hcomponents, List.head?_cons]
        dsimp only
        by_contra hprotected
        rw [Bool.not_eq_false, Bool.or_eq_true, beq_iff_eq, beq_iff_eq] at hprotected
        -- a protected name has no slash to stop at
        rcases hprotected with hkey | hkey <;> rw [hkey] at hroot <;> exact absurd hroot (by decide)
  exact isExactContentPath_of_open hparse hvalue hopen

/-- The text parses as a path and is its canonical form. -/
def IsCanonicalPath (u : Unicode) (value : String) : Prop :=
  ∃ path, fromPortable u value.toList = some path ∧ path.asStr = value.toList

/-- A canonical path that hides a protected root does not start with one. -/
theorem isExactContentPath_of_hides {value : String} (hcanonical : IsCanonicalPath u value)
    (hhides : HidesProtectedRoot u value) : isExactContentPath u value = true := by
  obtain ⟨path, hparse, hvalue⟩ := hcanonical
  obtain ⟨component, hhead, root, hroot, hkey⟩ := hhides
  have hopen : isProtectedRoot u path = false := by
    rw [isProtectedRoot, hvalue, Option.mem_def.mp hhead]
    dsimp only
    rw [Bool.or_eq_false_iff, beq_eq_false_iff_ne, beq_eq_false_iff_ne]
    -- the key has a slash, the protected names have none
    have hslash : '/' ∈ componentCollisionKey u component := hkey.subset (by simp)
    constructor
    · intro h
      rw [h] at hslash
      exact absurd hslash (by decide)
    · intro h
      rw [h] at hslash
      exact absurd hslash (by decide)
  exact isExactContentPath_of_open hparse hvalue hopen

/-- **The two path checks agree on a text unless it is a canonical path that hides a
protected root.** -/
theorem path_checks_agree_iff (value : String) :
    (isExactContentPath u value = true ↔ validateContentPath u value = .ok ()) ↔
      ¬ (IsCanonicalPath u value ∧ HidesProtectedRoot u value) := by
  have hstore : validateContentPath u value = .ok () ↔ isContentPath u value = true := by
    rw [validateContentPath, reject]
    cases isContentPath u value <;> simp
  rw [hstore]
  constructor
  · rintro hagree ⟨hcanonical, hhides⟩
    have hexact := isExactContentPath_of_hides hcanonical hhides
    exact (isContentPath_iff hexact).mp (hagree.mp hexact) hhides
  · intro hshown
    refine ⟨fun hexact => (isContentPath_iff hexact).mpr fun hhides => hshown ⟨?_, hhides⟩,
      isExactContentPath_of_isContentPath⟩
    obtain ⟨path, hpath⟩ := Option.isSome_iff_exists.mp hexact
    obtain ⟨hparse, hvalue, -⟩ := exactVaultPath_eq_some hpath
    exact ⟨path, hparse, hvalue⟩

/-- The mappings where the fullwidth solidus decomposes to a slash, as it does in NFKC. -/
def Unicode.solidus : Unicode :=
  { Unicode.ascii with nfkc := List.map fun c => if c = '\uff0f' then '/' else c }

/-- The planner lets a look-alike of the metadata directory through that the store refuses. -/
theorem path_checks_disagree : Unicode.solidus.nfkc ['\uff0f'] = ['/'] ∧
    isExactContentPath Unicode.solidus ".obsidian\uff0fapp.json" = true ∧
    validateContentPath Unicode.solidus ".obsidian\uff0fapp.json" =
      .error .invalidPortablePath := by
  decide +kernel

theorem notMem_of_isNormalizedComponent {normalized : Text}
    (h : isNormalizedComponent u normalized = true) : '/' ∉ normalized := by
  intro hmem
  rw [isNormalizedComponent, Bool.not_eq_true', Bool.or_eq_false_iff, Bool.or_eq_false_iff] at h
  have hany : (normalized.any fun c => c == '/' || c == '\x00' || isControl c) = true :=
    List.any_eq_true.mpr ⟨'/', hmem, by simp⟩
  rw [hany] at h
  exact absurd h.1.2 (by simp)

/-- A path with a collision key hides nothing: its components normalize to components. -/
theorem isContentPath_of_normalizedCollisionKey {sha256 : Sha256} {value key : String}
    (h : normalizedCollisionKey u sha256 value.toList = .ok key) :
    isContentPath u value = true := by
  rw [normalizedCollisionKey] at h
  split at h
  · cases h
  · rename_i path hpath
    have hexact : isExactContentPath u value = true := Option.isSome_iff_exists.mpr ⟨path, hpath⟩
    rw [isContentPath_iff hexact]
    rintro ⟨component, hhead, root, -, rest, hkey⟩
    rw [(exactVaultPath_eq_some hpath).2.1] at h
    cases hsplit : splitSlash value.toList with
    | nil => rw [hsplit] at hhead; cases hhead
    | cons first others =>
        rw [hsplit] at hhead h
        cases hhead
        rw [collisionStream] at h
        split at h
        · cases h
        · rename_i stream hstream
          split at hstream
          · rename_i hnormalized
            have hslash : '/' ∈ componentCollisionKey u component := by
              rw [← hkey]
              simp
            exact notMem_of_isNormalizedComponent hnormalized hslash
          · cases hstream

end Paths

/-! ## The name of a copy -/

section Names

variable {u : Unicode} {sha256 : Sha256} {request : ConflictCopyNameRequest}

theorem eq_of_decideName_create {name found : ConflictCopyName}
    (h : decideName request name = some (.create found)) : found = name := by
  by_cases hunblocked : Unblocked request name
  · obtain ⟨hcreate, -⟩ | ⟨hfail, -⟩ | ⟨first, -, hreuse, -⟩ := decideName_of_unblocked hunblocked
    · rw [hcreate, Option.some.injEq] at h
      cases h
      rfl
    · rw [hfail] at h
      cases h
    · rw [hreuse] at h
      cases h
  · rw [decideName_eq_none_iff.mpr hunblocked] at h
    cases h

/-- The search creates only a name it has tried. -/
theorem candidate_of_searchPrefixes {stem extension : Text} {name : ConflictCopyName}
    {lengths : List ℕ}
    (h : searchPrefixes u sha256 request stem extension lengths = .create name) :
    ∃ prefixLength, candidateName u sha256 request stem extension prefixLength = .ok name := by
  induction lengths with
  | nil => cases h
  | cons prefixLength rest ih =>
      rw [searchPrefixes] at h
      split at h
      · cases h
      · rename_i tried htried
        split at h
        · rename_i outcome hdecide
          rw [h] at hdecide
          exact ⟨prefixLength, eq_of_decideName_create hdecide ▸ htried⟩
        · exact ih h

theorem isContentPath_of_create {name : ConflictCopyName}
    (h : resolveConflictCopyName u sha256 request = .create name) :
    isContentPath u name.destinationPath = true := by
  by_cases haccepted : ∃ source, RequestAccepted u sha256 request source
  · obtain ⟨source, haccepted⟩ := haccepted
    rw [resolveConflictCopyName_of_accepted haccepted] at h
    obtain ⟨prefixLength, hcandidate⟩ := candidate_of_searchPrefixes h
    exact isContentPath_of_normalizedCollisionKey
      (normalizedCollisionKey_of_candidateName hcandidate)
  · rw [not_exists] at haccepted
    obtain ⟨failure, hfailure⟩ := resolveConflictCopyName_of_not_accepted haccepted
    rw [hfailure] at h
    cases h

end Names

/-! ## Markers and conflict ids -/

theorem asStr_wellFormed (domain : ConflictOperationDomain) :
    strLen domain.asStr ≤ 25 ∧ ∀ c ∈ domain.asStr.toList, isIdChar c = true := by
  rw [← List.all_eq_true]
  cases domain <;> decide

theorem isRedactedCode_operationMarker (domain : ConflictOperationDomain) {conflictId : String}
    (h : isLowerHex64 conflictId = true) :
    isRedactedCode (operationMarker domain conflictId) = true := by
  rw [isLowerHex64, Bool.and_eq_true, List.all_eq_true] at h
  have hhex : ∀ c ∈ conflictId.toList.take 32, isLowerHexChar c = true :=
    fun c hc => h.2 c (List.mem_of_mem_take hc)
  have htake : utf8Len (conflictId.toList.take 32) ≤ 32 := by
    rw [utf8Len_of_isLowerHexChar hhex]
    exact List.length_take_le _ _
  obtain ⟨hlength, hchars⟩ := asStr_wellFormed domain
  have hmarker : (operationMarker domain conflictId).toList =
      "r3.".toList ++ domain.asStr.toList ++ ".".toList ++ conflictId.toList.take 32 := by
    simp only [operationMarker, String.toList_append, String.toList_ofList]
  rw [strLen] at hlength
  rw [isRedactedCode, Bool.and_eq_true, decide_eq_true_eq, List.all_eq_true, strLen, hmarker]
  constructor
  · rw [utf8Len_append, utf8Len_append, utf8Len_append, show utf8Len "r3.".toList = 3 from rfl,
      show utf8Len ".".toList = 1 from rfl]
    omega
  · intro c hc
    rw [List.mem_append, List.mem_append, List.mem_append] at hc
    rcases hc with ((hc | hc) | hc) | hc
    · exact List.all_eq_true.mp (show "r3.".toList.all isIdChar = true by decide) c hc
    · exact hchars c hc
    · exact List.all_eq_true.mp (show ".".toList.all isIdChar = true by decide) c hc
    · exact isIdChar_of_isLowerHexChar (hhex c hc)

theorem isLowerHex64_of_deriveBoundConflictId {u : Unicode} {sha256 : Sha256}
    {classification : ConflictPlan} {facts : ClassificationEvidenceFacts} {conflictId : String}
    (h : deriveBoundConflictId u sha256 classification facts = .ok conflictId) :
    isLowerHex64 conflictId = true := by
  rw [deriveBoundConflictId] at h
  split at h
  · split at h
    · rename_i derived hderived
      cases h
      rw [deriveConflictId] at hderived
      split at hderived
      · cases hderived
      · cases hderived
        exact isLowerHex64_hexSha256 sha256 _
    · cases h
  · cases h

/-! ## The intent of one draft -/

section Intents

/-- A version-5 UUID carries its version, so it is never nil. -/
def NeverNil (newV5 : UuidV5) : Prop := ∀ domain name, (newV5 domain name).isNil = false

variable {u : Unicode} {sha256 : Sha256} {newV5 : UuidV5} {classification : ConflictPlan}
  {context : MaterializationContext} {plan : MaterializationPlan}
  {evidence : ClassificationEvidence} {conflictId : String} {requirement : ConflictDraft}
  {draft : MaterializationDraft} {kind : MutationOperationKind} {registeredAtUnixMs : ℕ}

theorem validPair_map {α : Type} {o : Option α} {f : α → ContentFingerprint}
    (h : ∀ a ∈ o, validFingerprint (f a) = true) :
    ValidPair (o.map fun a => (f a).sha256) (o.map fun a => (f a).byteLength) := by
  cases o with
  | none => exact ⟨rfl, by simp, by simp⟩
  | some a =>
      have ha := h a rfl
      rw [validFingerprint, Bool.and_eq_true] at ha
      refine ⟨rfl, fun value hvalue => ?_, fun value hvalue => ?_⟩
      · cases hvalue
        exact ha.1
      · cases hvalue
        exact ha.2

/-- The parents and the content of a draft are well formed. -/
structure ValidShape (source : Option PublicationSource) (destination : Option PublicationTarget)
    (content : Option ContentFingerprint) : Prop where
  sourceParent : ∀ parentId ∈ source.map (·.parentId), isRemoteId parentId = true
  destinationParent : ∀ parentId ∈ destination.map (·.parentId), isRemoteId parentId = true
  content : ∀ value ∈ content, validFingerprint value = true

theorem ValidShape.of_some {source : PublicationSource} {target : PublicationTarget}
    {content : ContentFingerprint} (hsource : isRemoteId source.parentId = true)
    (htarget : isRemoteId target.parentId = true) (hcontent : validFingerprint content = true) :
    ValidShape (some source) (some target) (some content) :=
  ⟨fun _ h => Option.some.inj h ▸ hsource, fun _ h => Option.some.inj h ▸ htarget,
    fun _ h => Option.some.inj h ▸ hcontent⟩

theorem ValidContext.localTarget_valid (h : ValidContext u context) :
    isExactContentPath u context.localTarget.portablePath = true ∧
      isRemoteId context.localTarget.parentId = true :=
  h.target_valid (by simp [MaterializationContext.targets])

theorem ValidContext.renameTarget_valid (h : ValidContext u context) {target : PublicationTarget}
    (htarget : context.renameTarget = some target) :
    isExactContentPath u target.portablePath = true ∧ isRemoteId target.parentId = true :=
  h.target_valid (by simp [MaterializationContext.targets, htarget])

theorem ValidContext.destination_valid (h : ValidContext u context) {target : PublicationTarget}
    (htarget : context.blockedRemoteDestination = some target) :
    isExactContentPath u target.portablePath = true ∧ isRemoteId target.parentId = true :=
  h.target_valid (by simp [MaterializationContext.targets, htarget])

theorem ValidContext.resolvedBase_valid (h : ValidContext u context) {outcome : ConflictOutcome}
    {content : ContentFingerprint} (hcontent : resolvedBase outcome context = some content) :
    validFingerprint content = true := by
  have hremote : ∀ {content}, context.remote.map (·.content) = some content →
      validFingerprint content = true := by
    intro content hcontent
    obtain ⟨remote, hfound, rfl⟩ := Option.map_eq_some_iff.mp hcontent
    exact (h.remote_valid hfound).content
  cases outcome
  case safeTextMergeLocal => exact h.merged content hcontent
  case guardedLocalReplace => exact hremote hcontent
  case needsReconcile => exact hremote hcontent
  all_goals cases hcontent

theorem validShape_of_drafted {outcome : ConflictOutcome} {planKind : LocalPlanKind}
    {operation : Option MutationOperationKind} {source : Option PublicationSource}
    {destination : Option PublicationTarget} {content : Option ContentFingerprint}
    (hvalid : ValidContext u context)
    (h : Drafted u sha256 outcome context conflictId requirement planKind operation source
      destination content) : ValidShape source destination content := by
  have hparent := hvalid.localTarget_valid.2
  have hlocal : ∀ parentId ∈ context.localSource.map (·.parentId), isRemoteId parentId = true := by
    intro parentId hmem
    obtain ⟨source, hfound, rfl⟩ := Option.map_eq_some_iff.mp hmem
    exact (hvalid.local_valid hfound).parentId
  cases h with
  | localPublish hremote =>
      have hsource := hvalid.remote_valid hremote
      exact .of_some hsource.parentId hparent hsource.content
  | mergePublish hmerged =>
      exact ⟨hlocal, fun _ h => Option.some.inj h ▸ hparent,
        fun _ h => Option.some.inj h ▸ hvalid.merged _ hmerged⟩
  | copyPublish hremote hname =>
      have hsource := hvalid.remote_valid hremote
      exact .of_some hsource.parentId hparent hsource.content
  | copyReuse hremote hname =>
      have hsource := hvalid.remote_valid hremote
      exact .of_some hsource.parentId hparent hsource.content
  | basePublish hcontent =>
      refine ⟨fun parentId hmem => ?_, fun _ h => Option.some.inj h ▸ hparent,
        fun _ h => Option.some.inj h ▸ hvalid.resolvedBase_valid hcontent⟩
      obtain ⟨source, hsource, rfl⟩ := Option.map_eq_some_iff.mp hmem
      obtain ⟨localSource, -, rfl⟩ := Option.map_eq_some_iff.mp hsource
      exact hparent
  | blocked hsource hdestination =>
      have hblocked := hvalid.blocked_valid hsource
      exact .of_some hblocked.parentId (hvalid.destination_valid hdestination).2 hblocked.content
  | guarded hguarded htarget =>
      refine ⟨hlocal, fun _ h => Option.some.inj h ▸ (hvalid.renameTarget_valid htarget).2,
        fun value hmem => ?_⟩
      obtain ⟨source, hfound, rfl⟩ := Option.map_eq_some_iff.mp hmem
      exact (hvalid.local_valid hfound).content

/-- The base of the context has both its revisions, or there is no base and none of them. -/
def WholeBase (context : MaterializationContext) : Prop :=
  context.baseLocalRevision.isSome = context.base.isSome ∧
    context.baseRemoteRevision.isSome = context.base.isSome

theorem wholeBase_iff : WholeBase context ↔
    (context.baseLocalRevision = none ∧ context.baseRemoteRevision = none ∧
        context.base.map (·.content.sha256) = none ∧
        context.base.map (·.content.byteLength) = none) ∨
      (context.baseLocalRevision.isSome = true ∧ context.baseRemoteRevision.isSome = true ∧
        (context.base.map (·.content.sha256)).isSome = true ∧
        (context.base.map (·.content.byteLength)).isSome = true) := by
  rw [WholeBase]
  cases context.baseLocalRevision <;> cases context.baseRemoteRevision <;>
    cases context.base <;> simp

/-- The paths an intent of the draft names. -/
def MaterializationDraft.paths (draft : MaterializationDraft) : List (Option String) :=
  [draft.source.map (·.portablePath), draft.destination.map (·.portablePath)]

/-- The store accepts the intent of a draft exactly if it accepts the paths and, where the
intent is blocked, the remote object is known and the base is whole. -/
theorem validIntent_intentOf_iff (hnil : NeverNil newV5)
    (hplan : Materializes u sha256 newV5 classification context plan evidence conflictId)
    (hof : DraftOf u sha256 newV5 classification.outcome context conflictId requirement draft)
    (ht : fitsI64 registeredAtUnixMs = true) :
    ValidIntent u sha256 (intentOf sha256 plan draft kind registeredAtUnixMs) ↔
      (∀ path, some path ∈ draft.paths → isContentPath u path = true) ∧
      (kind = .remoteExistingBlocked → context.remote.isSome = true ∧ draft.source.isSome = true ∧
        (context.remote.bind (·.revision)).isSome = true ∧ WholeBase context) := by
  have hvalid := hplan.valid
  have hshape := validShape_of_drafted hvalid hof.shape
  constructor
  · intro h
    refine ⟨h.paths, fun hkind => ?_⟩
    obtain ⟨-, -, hremote, hsource, -, hrevision⟩ := h.blocked hkind
    have hwhole := h.wholeBase hkind
    simp only [intentOf, intentFields, hplan.remote, hplan.base, hplan.baseLocalRevision,
      hplan.baseRemoteRevision, Option.isSome_map] at hremote hsource hrevision hwhole
    refine ⟨hremote, hsource, hrevision, wholeBase_iff.mpr ?_⟩
    simpa only [Option.isSome_map] using hwhole
  · rintro ⟨hpaths, hblocked⟩
    refine
      { operationId := ?_
        operationMarker := ?_
        lowerHex := isLowerHex64_hexSha256 sha256 _
        fingerprint := rfl
        ids := fun id hid => ?_
        paths := hpaths
        revisions := fun revision hrevision => ?_
        references := fun reference hreference => ?_
        base := ?_
        expectedLocal := validPair_map hshape.content
        expectedRemote := ?_
        registered := ht
        binding := rfl
        blocked := fun hkind => ?_
        wholeBase := fun hkind => ?_ }
    · show draft.operationId.isNil = false
      rw [hof.operationId]
      exact hnil _ _
    · show isRedactedCode draft.operationMarker = true
      rw [hof.operationMarker]
      exact isRedactedCode_operationMarker _ (isLowerHex64_of_deriveBoundConflictId hplan.derived)
    · simp only [intentOf, intentFields, List.mem_cons, List.not_mem_nil, or_false, hplan.accountId,
        hplan.remoteRootId, hplan.remote, Option.some.injEq] at hid
      rcases hid with rfl | rfl | hid | hid | hid
      · exact hvalid.accountId
      · exact hvalid.remoteRootId
      · obtain ⟨remote, hremote, rfl⟩ := Option.map_eq_some_iff.mp hid.symm
        exact (hvalid.remote_valid hremote).objectId
      · exact hshape.sourceParent id hid.symm
      · exact hshape.destinationParent id hid.symm
    · simp only [intentOf, intentFields, List.mem_cons, List.not_mem_nil, or_false, hplan.remote,
        hplan.localSource, hplan.baseLocalRevision, hplan.baseRemoteRevision] at hrevision
      rcases hrevision with h | h | h | h
      · exact isRemoteId_of_isLowerHex64 (hvalid.localRevision revision h.symm)
      · exact hvalid.remoteRevision revision h.symm
      · exact isRemoteId_of_isLowerHex64 (hvalid.baseLocalRevision revision h.symm)
      · exact hvalid.baseRemoteRevision revision h.symm
    · simp only [intentOf, intentFields, List.mem_cons, List.not_mem_nil, or_false,
        hplan.localSource, hplan.baseReference] at hreference
      rcases hreference with h | h
      · obtain ⟨source, hsource, rfl⟩ := Option.map_eq_some_iff.mp h.symm
        exact hvalid.localObject source hsource
      · exact hvalid.baseReference reference h.symm
    · show ValidPair (plan.base.map (·.content.sha256)) (plan.base.map (·.content.byteLength))
      rw [hplan.base]
      exact validPair_map fun source hsource => (hvalid.base_valid hsource).content
    · show ValidPair (plan.remote.map (·.content.sha256)) (plan.remote.map (·.content.byteLength))
      rw [hplan.remote]
      exact validPair_map fun source hsource => (hvalid.remote_valid hsource).content
    · obtain ⟨hremote, hsource, hrevision, -⟩ := hblocked hkind
      simp only [intentOf, intentFields, hplan.remote, Option.isSome_map, Option.isSome_some]
      exact ⟨trivial, trivial, hremote, hsource, hsource, hrevision⟩
    · obtain ⟨-, -, -, hwhole⟩ := hblocked hkind
      simp only [intentOf, intentFields, hplan.base, hplan.baseLocalRevision,
        hplan.baseRemoteRevision]
      exact wholeBase_iff.mp hwhole

end Intents

/-! ## The intents of a plan -/

section Plans

/-- No copy of the conflict is found that could be reused. -/
def CreatesCopy (u : Unicode) (sha256 : Sha256) (classification : ConflictPlan)
    (context : MaterializationContext) : Prop :=
  ∃ evidence conflictId remote name,
    classification.classificationEvidence = some evidence ∧
      deriveBoundConflictId u sha256 classification evidence.facts = .ok conflictId ∧
      context.remote = some remote ∧
      resolveConflictCopyName u sha256 (copyNameRequest context remote conflictId) = .create name

/-- The paths of the context a requirement hands on to the store. -/
def carriedPaths (context : MaterializationContext) : ConflictDraft → List (Option String)
  | .localContentPublish =>
    [context.remote.map (·.portablePath), some context.localTarget.portablePath]
  | .mergePublish =>
    [context.localSource.map (·.portablePath), some context.localTarget.portablePath]
  | .conflictCopyPublish => [context.remote.map (·.portablePath)]
  | .basePublish => [some context.localTarget.portablePath]
  | .remoteExistingBlocked =>
    [context.blockedRemoteSource.map (·.portablePath),
      context.blockedRemoteDestination.map (·.portablePath)]
  | .guardedLocalRename | .guardedLocalMove | .guardedLocalRenameMove => []

/-- No path the drafts hand on hides a protected root, and a blocked draft has the whole
base or none of it. -/
structure Registrable (u : Unicode) (sha256 : Sha256) (classification : ConflictPlan)
    (context : MaterializationContext) : Prop where
  paths : ∀ requirement ∈ classification.drafts,
    (requirement = .conflictCopyPublish → CreatesCopy u sha256 classification context) →
      ∀ path, some path ∈ carriedPaths context requirement → ¬ HidesProtectedRoot u path
  wholeBase : .remoteExistingBlocked ∈ classification.drafts → WholeBase context

variable {u : Unicode} {sha256 : Sha256} {newV5 : UuidV5} {classification : ConflictPlan}
  {context : MaterializationContext} {plan : MaterializationPlan}
  {evidence : ClassificationEvidence} {conflictId : String} {requirement : ConflictDraft}
  {draft : MaterializationDraft} {registeredAtUnixMs : ℕ}

theorem ValidContext.carriedPaths_exact (h : ValidContext u context) {path : String}
    (hpath : some path ∈ carriedPaths context requirement) : isExactContentPath u path = true := by
  have htarget := h.localTarget_valid.1
  have hsource : ∀ {source : Option PublicationSource}, source ∈ context.sources →
      some path = source.map (·.portablePath) → isExactContentPath u path = true := by
    intro source hmem hsome
    obtain ⟨found, rfl, rfl⟩ := Option.map_eq_some_iff.mp hsome.symm
    exact (isValid_source_iff.mp (h.source found hmem)).path
  cases requirement with
  | localContentPublish =>
      rcases List.mem_pair.mp hpath with hremote | hlocal
      · exact hsource (by simp [MaterializationContext.sources]) hremote
      · cases hlocal
        exact htarget
  | mergePublish =>
      rcases List.mem_pair.mp hpath with hremote | hlocal
      · exact hsource (by simp [MaterializationContext.sources]) hremote
      · cases hlocal
        exact htarget
  | conflictCopyPublish =>
      exact hsource (by simp [MaterializationContext.sources]) (List.mem_singleton.mp hpath)
  | basePublish =>
      cases List.mem_singleton.mp hpath
      exact htarget
  | remoteExistingBlocked =>
      rcases List.mem_pair.mp hpath with hblocked | hblocked
      · exact hsource (by simp [MaterializationContext.sources]) hblocked
      · obtain ⟨found, hfound, rfl⟩ := Option.map_eq_some_iff.mp hblocked.symm
        exact (h.destination_valid hfound).1
  | _ => cases hpath

theorem portablePath_baseSource {source : PublicationSource} {content : ContentFingerprint}
    (h : baseSource context content = some source) :
    source.portablePath = context.localTarget.portablePath := by
  obtain ⟨localSource, -, rfl⟩ := Option.map_eq_some_iff.mp h
  rfl

/-- The paths of a durable draft are the carried ones, beside a created name. -/
theorem contentPaths_iff
    (hof : DraftOf u sha256 newV5 classification.outcome context conflictId requirement draft)
    (hdurable : draft.durableOperationKind.isSome = true) :
    (∀ path, some path ∈ draft.paths → isContentPath u path = true) ↔
      ∀ path, some path ∈ carriedPaths context requirement → isContentPath u path = true := by
  obtain ⟨operationId, planKind, operation, source, destination, content, marker⟩ := draft
  cases hof.shape with
  | localPublish hremote => rw [MaterializationDraft.paths, carriedPaths, hremote]; rfl
  | mergePublish hmerged => rfl
  | copyPublish hremote hname =>
      have hcreated := isContentPath_of_create hname
      rw [MaterializationDraft.paths, carriedPaths, hremote]
      constructor
      · exact fun h path hpath => h path (List.mem_cons.mpr (Or.inl (List.mem_singleton.mp hpath)))
      · intro h path hpath
        rcases List.mem_pair.mp hpath with hsource | hdestination
        · exact h path (List.mem_singleton.mpr hsource)
        · cases hdestination
          exact hcreated
  | copyReuse hremote hname => cases hdurable
  | basePublish hcontent =>
      rw [MaterializationDraft.paths, carriedPaths]
      constructor
      · intro h path hpath
        exact h path (List.mem_cons_of_mem _ hpath)
      · intro h path hpath
        rcases List.mem_pair.mp hpath with hsource | hdestination
        · obtain ⟨found, hfound, rfl⟩ := Option.map_eq_some_iff.mp hsource.symm
          exact h _ (List.mem_singleton.mpr (congrArg some (portablePath_baseSource hfound)))
        · exact h path (List.mem_singleton.mpr hdestination)
  | blocked hsource hdestination =>
      rw [MaterializationDraft.paths, carriedPaths, hsource, hdestination]
  | guarded hguarded htarget => cases hdurable

/-- A requirement is left without an operation when it is guarded or its copy is reused. -/
theorem not_carries_of_not_durable
    (hplan : Materializes u sha256 newV5 classification context plan evidence conflictId)
    (hof : DraftOf u sha256 newV5 classification.outcome context conflictId requirement draft)
    (hdurable : draft.durableOperationKind = none) :
    requirement ≠ .remoteExistingBlocked ∧
      ((requirement = .conflictCopyPublish → CreatesCopy u sha256 classification context) →
        ∀ path, some path ∉ carriedPaths context requirement) := by
  obtain ⟨operationId, planKind, operation, source, destination, content, marker⟩ := draft
  cases hof.shape with
  | copyReuse hremote hname =>
      refine ⟨nofun, fun hcreates => ?_⟩
      obtain ⟨evidence', conflictId', remote', name', hcarries, hderived, hremote', hcreate⟩ :=
        hcreates rfl
      obtain rfl : evidence = evidence' := Option.some.inj (hplan.carries.symm.trans hcarries)
      obtain rfl : conflictId = conflictId' := Except.ok.inj (hplan.derived.symm.trans hderived)
      obtain rfl := Option.some.inj (hremote.symm.trans hremote')
      rw [hname] at hcreate
      cases hcreate
  | guarded hguarded htarget =>
      cases requirement <;> first | exact ⟨nofun, fun _ _ => List.not_mem_nil⟩ | cases hguarded
  | _ => cases hdurable

theorem eq_blocked_iff {kind : MutationOperationKind}
    (hof : DraftOf u sha256 newV5 classification.outcome context conflictId requirement draft)
    (hkind : draft.durableOperationKind = some kind) :
    kind = .remoteExistingBlocked ↔ requirement = .remoteExistingBlocked := by
  obtain ⟨operationId, planKind, operation, source, destination, content, marker⟩ := draft
  cases hof.shape with
  | copyReuse hremote hname => cases hkind
  | guarded hguarded htarget => cases hkind
  | _ => cases hkind; exact iff_of_eq (by simp)

theorem blocked_draft
    (hof : DraftOf u sha256 newV5 classification.outcome context conflictId .remoteExistingBlocked
      draft) :
    draft.source.isSome = true ∧ draft.durableOperationKind = some .remoteExistingBlocked := by
  obtain ⟨operationId, planKind, operation, source, destination, content, marker⟩ := draft
  cases hof.shape with
  | blocked hsource hdestination => exact ⟨rfl, rfl⟩
  | guarded hguarded htarget => cases hguarded

/-- What the intent of one draft needs to be registered. -/
theorem draft_registers_iff (hnil : NeverNil newV5)
    (hplan : Materializes u sha256 newV5 classification context plan evidence conflictId)
    (hremote : (context.remote.bind (·.revision)).isSome = true)
    (hdraft : draft ∈ plan.drafts)
    (hof : DraftOf u sha256 newV5 classification.outcome context conflictId requirement draft)
    (ht : fitsI64 registeredAtUnixMs = true) :
    (∃ intent, mutationIntentFromDraft sha256 plan draft registeredAtUnixMs = .ok intent ∧
      ∀ i ∈ intent, validateMutationIntent u sha256 i = .ok ()) ↔
      ((requirement = .conflictCopyPublish → CreatesCopy u sha256 classification context) →
        ∀ path, some path ∈ carriedPaths context requirement → ¬ HidesProtectedRoot u path) ∧
      (requirement = .remoteExistingBlocked → WholeBase context) := by
  cases hkind : draft.durableOperationKind with
  | none =>
      obtain ⟨hblocked, hcarries⟩ := not_carries_of_not_durable hplan hof hkind
      refine iff_of_true ⟨none, ?_, fun i hi => absurd hi (Option.not_mem_none i)⟩
        ⟨fun hcreates path hpath => ?_, fun h => absurd h hblocked⟩
      · rw [mutationIntentFromDraft, if_neg (by simp [ht]), if_neg (not_not.mpr hdraft), hkind,
          Option.map_none]
      · exact absurd hpath (hcarries hcreates path)
  | some kind =>
      have hdurable : draft.durableOperationKind.isSome = true := by rw [hkind]; rfl
      have hcreates : requirement = .conflictCopyPublish →
          CreatesCopy u sha256 classification context := by
        rintro rfl
        obtain ⟨operationId, planKind, operation, source, destination, content, marker⟩ := draft
        cases hof.shape with
        | copyPublish hremote hname =>
            exact ⟨evidence, conflictId, _, _, hplan.carries, hplan.derived, hremote, hname⟩
        | copyReuse hremote hname => cases hdurable
        | guarded hguarded htarget => cases hguarded
      have hsome : context.remote.isSome = true := Option.isSome_of_isSome_bind hremote
      have hpaths : (∀ path, some path ∈ carriedPaths context requirement →
          isContentPath u path = true) ↔
          ∀ path, some path ∈ carriedPaths context requirement → ¬ HidesProtectedRoot u path :=
        forall₂_congr fun path hpath => isContentPath_iff (hplan.valid.carriedPaths_exact hpath)
      have hblocked : (kind = .remoteExistingBlocked → context.remote.isSome = true ∧
          draft.source.isSome = true ∧ (context.remote.bind (·.revision)).isSome = true ∧
          WholeBase context) ↔ (requirement = .remoteExistingBlocked → WholeBase context) := by
        rw [eq_blocked_iff hof hkind]
        refine forall_congr' fun hrequirement => ?_
        subst hrequirement
        exact ⟨fun h => h.2.2.2, fun h => ⟨hsome, (blocked_draft hof).1, hremote, h⟩⟩
      have hvalid : ValidIntent u sha256
          (intentOf sha256 plan draft kind registeredAtUnixMs) ↔ _ :=
        validIntent_intentOf_iff hnil hplan hof ht
      rw [contentPaths_iff hof hdurable, hpaths, hblocked] at hvalid
      rw [mutationIntentFromDraft_eq_ok ht hdraft hkind]
      simp only [Except.ok.injEq, exists_eq_left', Option.mem_def, Option.some.injEq, forall_eq',
        validateMutationIntent_eq_ok, hvalid]
      exact and_congr_left fun _ => (imp_iff_right hcreates).symm

/-- **The store accepts every intent of a plan exactly if no path handed on hides a
protected root and a blocked draft has the whole base or none of it.** -/
theorem planned_intents_register_iff (input : ConflictInput u sha256) (hnil : NeverNil newV5)
    (h : materializeConflictPlan u sha256 newV5 (classifyConflict input) context = .ok plan)
    (registeredAtUnixMs : ℕ) (ht : fitsI64 registeredAtUnixMs = true) :
    (∀ draft ∈ plan.drafts, ∃ intent,
      mutationIntentFromDraft sha256 plan draft registeredAtUnixMs = .ok intent ∧
        ∀ i ∈ intent, validateMutationIntent u sha256 i = .ok ()) ↔
      Registrable u sha256 (classifyConflict input) context := by
  obtain ⟨evidence, conflictId, hplan⟩ := materializes_of_ok h
  have hremote : ∀ requirement ∈ (classifyConflict input).drafts,
      (context.remote.bind (·.revision)).isSome = true := by
    intro requirement hrequirement
    obtain rfl : input.evidence = evidence := Option.some.inj hplan.carries
    rw [← hplan.bound.remoteRevision]
    exact Option.isSome_of_any (accepted_of_mem_drafts input hrequirement).remoteRevision
  constructor
  · intro hall
    refine ⟨fun requirement hrequirement => ?_, fun hblocked => ?_⟩
    · obtain ⟨draft, hdraft, hof⟩ := exists_of_mem_left hplan.drafts hrequirement
      exact ((draft_registers_iff hnil hplan (hremote _ hrequirement) hdraft hof ht).mp
        (hall draft hdraft)).1
    · obtain ⟨draft, hdraft, hof⟩ := exists_of_mem_left hplan.drafts hblocked
      exact ((draft_registers_iff hnil hplan (hremote _ hblocked) hdraft hof ht).mp
        (hall draft hdraft)).2 rfl
  · intro hregistrable draft hdraft
    obtain ⟨requirement, hrequirement, hof⟩ := exists_of_mem_right hplan.drafts hdraft
    rw [draft_registers_iff hnil hplan (hremote _ hrequirement) hdraft hof ht]
    exact ⟨hregistrable.paths requirement hrequirement,
      fun hblocked => hregistrable.wholeBase (hblocked ▸ hrequirement)⟩

end Plans

/-! ## A blocked intent the store refuses -/

theorem neverNil_noteV5 : NeverNil noteV5 := by
  have hite : ∀ (p : Prop) [Decidable p] (a b : Uuid), a.isNil = false → b.isNil = false →
      (if p then a else b).isNil = false := by
    intro p _ a b ha hb
    split <;> assumption
  intro domain name
  exact hite _ _ _ rfl (hite _ _ _ rfl (hite _ _ _ rfl (hite _ _ _ rfl rfl)))

theorem planned_intents_register_iff_note :
    ∃ plan, materializeConflictPlan Unicode.ascii noteDigest noteV5 (classifyConflict noteInput)
        noteContext = .ok plan ∧
      ((∀ draft ∈ plan.drafts, ∃ intent, mutationIntentFromDraft noteDigest plan draft 1 =
          .ok intent ∧
        ∀ i ∈ intent, validateMutationIntent Unicode.ascii noteDigest i = .ok ()) ↔
        Registrable Unicode.ascii noteDigest (classifyConflict noteInput) noteContext) := by
  obtain ⟨plan, hplan⟩ := exists_ok_of_isOk noteInput_materializes
  exact ⟨plan, hplan,
    planned_intents_register_iff noteInput neverNil_noteV5 hplan 1 (by decide)⟩

/-- The note, with a base whose local revision is not known any more. -/
def partialContext : MaterializationContext := { noteContext with baseLocalRevision := none }

theorem partialContext_materializes : (materializeConflictPlan Unicode.ascii noteDigest noteV5
    (classifyConflict noteInput) partialContext).isOk = true := by decide +kernel

/-- The planner plans the blocked remote update of the note with a partial base, and the
store does not register it. -/
theorem planned_blocked_intent_is_refused :
    ∃ plan, materializeConflictPlan Unicode.ascii noteDigest noteV5 (classifyConflict noteInput)
        partialContext = .ok plan ∧
      ∃ draft ∈ plan.drafts, ∃ intent,
        mutationIntentFromDraft noteDigest plan draft 1 = .ok (some intent) ∧
          validateMutationIntent Unicode.ascii noteDigest intent ≠ .ok () := by
  obtain ⟨plan, hplan⟩ := exists_ok_of_isOk partialContext_materializes
  obtain ⟨evidence, conflictId, hmaterializes⟩ := materializes_of_ok hplan
  have hrequirement : .remoteExistingBlocked ∈ (classifyConflict noteInput).drafts := by decide
  obtain ⟨draft, hdraft, hof⟩ := exists_of_mem_left hmaterializes.drafts hrequirement
  have hkind := (blocked_draft hof).2
  refine ⟨plan, hplan, draft, hdraft, _, mutationIntentFromDraft_eq_ok (by decide) hdraft hkind,
    fun hvalid => ?_⟩
  rw [validateMutationIntent_eq_ok,
    validIntent_intentOf_iff neverNil_noteV5 hmaterializes hof (by decide)] at hvalid
  obtain ⟨-, -, -, hwhole, -⟩ := hvalid.2 rfl
  exact absurd hwhole (by decide)

end Conflict
end MyVault
