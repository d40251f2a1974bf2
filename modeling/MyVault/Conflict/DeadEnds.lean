import Mathlib.Data.List.TakeWhile
import MyVault.Conflict.Replay

/-!
# Which classifications can be materialized

An accepted classification has a revision on both sides; the context ties each revision
and each content to the same optional source.  So the content of a side that is absent,
as in the deletion cells, leaves the classification without a context.  A base
publication is resolved for three outcomes and drafted under a fourth.  And the identity
of a conflict without a base is that of the local source, which is a private reference.
Everything else the planner asks for can be found (`materializable_iff`).

## The two directions

A context that is bound to the evidence has the contents of the facts, so a side without content
and an identity that is no private reference are dead ends for every context.  The fourth part of
`Materializable` is about the matrix itself: one case drafts a base publication under an outcome
for which no base is resolved.

The other direction has to build a context.  `anchoredContext` takes everything from the facts,
and the name of a conflict copy is asked of the search where nothing is occupied
(`freeCopyRequest`); that this search ends with a name is a fact about names of plain ASCII
characters (`PlainName`, `Unicode.OnAscii`).  What each requirement asks of the outcome and the
evidence is `Answered`, and what the case has made sure of `Ensured`.
-/

namespace MyVault

/-- The Unicode mappings do to ASCII what ASCII case mappings do. -/
structure Unicode.OnAscii (u : Unicode) : Prop where
  toUppercase : ∀ t : Text, (∀ c ∈ t, c.toNat < 128) → u.toUppercase t = t.map Char.toUpper
  nfkc : ∀ t : Text, (∀ c ∈ t, c.toNat < 128) → u.nfkc t = t
  caseFold : ∀ t : Text, (∀ c ∈ t, c.toNat < 128) → u.caseFold t = t.map Char.toLower

theorem Unicode.ascii_onAscii : Unicode.ascii.OnAscii :=
  ⟨fun _ _ => rfl, fun _ _ => rfl, fun _ _ => rfl⟩

namespace Conflict

open Store Check VaultPath

/-! ## Plain names -/

section Plain

/-- The characters of the name that is always free. -/
def isPlainChar (c : Char) : Bool :=
  c.isLower || c.isDigit || c == ' ' || c == '(' || c == ')'

theorem toNat_of_isPlainChar {c : Char} (h : isPlainChar c = true) :
    (97 ≤ c.toNat ∧ c.toNat ≤ 122) ∨ (48 ≤ c.toNat ∧ c.toNat ≤ 57) ∨ c.toNat = 32 ∨
      c.toNat = 40 ∨ c.toNat = 41 := by
  rw [isPlainChar, Bool.or_eq_true, Bool.or_eq_true, Bool.or_eq_true, Bool.or_eq_true,
    isLower_iff, isDigit_iff, beq_iff_eq, beq_iff_eq, beq_iff_eq] at h
  rcases h with (((h | h) | rfl) | rfl) | rfl
  · exact Or.inl h
  · exact Or.inr (Or.inl h)
  · exact Or.inr (Or.inr (Or.inl rfl))
  · exact Or.inr (Or.inr (Or.inr (Or.inl rfl)))
  · exact Or.inr (Or.inr (Or.inr (Or.inr rfl)))

/-- A plain character is no character with a meaning in paths. -/
theorem ne_of_isPlainChar {c d : Char} (h : isPlainChar c = true) (hd : isPlainChar d = false) :
    c ≠ d := by
  rintro rfl
  rw [h] at hd
  cases hd

theorem isForbiddenChar_of_isPlainChar {c : Char} (h : isPlainChar c = true) :
    isForbiddenChar c = false := by
  have hnat := toNat_of_isPlainChar h
  rw [isForbiddenChar, Bool.or_eq_false_iff, isControl]
  constructor
  · simp only [Bool.or_eq_false_iff, Bool.and_eq_false_iff, decide_eq_false_iff_not]
    omega
  · have hall : ∀ d ∈ ['<', '>', ':', '"', '|', '?', '*', '\\'], isPlainChar d = false := by
      simp only [← Bool.not_eq_true', ← List.all_eq_true]
      decide
    rw [List.contains_eq_any_beq, List.any_eq_false]
    intro d hd
    simpa using ne_of_isPlainChar h (hall d hd)

/-- A component of plain characters that starts with an `x`. -/
structure PlainName (component : Text) : Prop where
  plain : ∀ c ∈ component, isPlainChar c = true
  head : component.head? = some 'x'
  last : component.getLast? ≠ some ' '
  short : component.length ≤ 255

namespace PlainName

variable {u : Unicode} {component : Text}

theorem notMem (h : PlainName component) {d : Char} (hd : isPlainChar d = false) :
    d ∉ component := fun hmem => ne_of_isPlainChar (h.plain d hmem) hd rfl

theorem ascii (h : PlainName component) : ∀ c ∈ component, c.toNat < 128 := by
  intro c hc
  have hnat := toNat_of_isPlainChar (h.plain c hc)
  omega

theorem utf8Len_eq (h : PlainName component) : utf8Len component = component.length :=
  utf8Len_of_ascii h.ascii

theorem utf16Len_eq (h : PlainName component) : utf16Len component = component.length :=
  utf16Len_of_ascii h.ascii

theorem map_toLower (h : PlainName component) : component.map Char.toLower = component := by
  have hid : component.map Char.toLower = component.map id := by
    refine List.map_congr_left fun c hc => ?_
    have hnat := toNat_of_isPlainChar (h.plain c hc)
    have hupper : ¬ (65 ≤ c.toNat ∧ c.toNat ≤ 90) := by omega
    exact dif_neg hupper
  rw [hid, List.map_id]

theorem componentCollisionKey_eq (hu : u.OnAscii) (h : PlainName component) :
    componentCollisionKey u component = component := by
  rw [componentCollisionKey, hu.nfkc component h.ascii, hu.caseFold component h.ascii,
    h.map_toLower, hu.nfkc component h.ascii]

/-- No name Windows reserves starts with an `x`. -/
theorem not_reserved (hu : u.OnAscii) (h : PlainName component) :
    isWindowsReservedName u component = false := by
  obtain ⟨rest, rfl⟩ : ∃ rest, component = 'x' :: rest := by
    cases component with
    | nil => cases h.head
    | cons c rest => exact ⟨rest, by rw [Option.some.inj h.head]⟩
  rw [isWindowsReservedName, hu.toUppercase _ h.ascii, List.map_cons]
  have hx : Char.toUpper 'x' = 'X' := by decide
  simp [reservedNumberedName, hx]

theorem portable (hu : u.OnAscii) (h : PlainName component) : PortableComponent u component := by
  have hdot : '.' ∉ component := h.notMem rfl
  refine ⟨fun hdots => hdot (by rw [hdots]; exact List.mem_cons_self), ?_⟩
  have hlast : component.getLast? ≠ some '.' := fun hlast => hdot (List.mem_of_getLast? hlast)
  have hforbidden : component.any isForbiddenChar = false := by
    rw [List.any_eq_false]
    intro c hc
    rw [isForbiddenChar_of_isPlainChar (h.plain c hc)]
    decide
  have hstem : component.takeWhile (· ≠ '.') = component := by
    have hall : ∀ c ∈ component, decide (c ≠ '.') = true :=
      fun c hc => decide_eq_true fun hcdot => hdot (hcdot ▸ hc)
    exact List.takeWhile_eq_self_iff.mpr hall
  have hshort := h.short
  rw [isPortableComponent, if_neg, hstem]
  · show (!isWindowsReservedName u component) = true
    rw [h.not_reserved hu, Bool.not_false]
  · rw [h.utf8Len_eq, h.utf16Len_eq, hforbidden, maxComponentBytes, maxComponentUtf16Units]
    rintro (hlong | hlong | (hend | hend) | hany)
    · omega
    · omega
    · exact hlast hend
    · exact h.last hend
    · cases hany

/-- A plain name is a path of its own. -/
theorem exists_exactVaultPath (hu : u.OnAscii) (h : PlainName component) :
    ∃ path, exactVaultPath u component = some path ∧ path.asStr = component := by
  have hslash : '/' ∉ component := h.notMem rfl
  have hnil : component ≠ [] := by
    rintro rfl
    cases h.head
  have hsplit : splitSlash component = [component] := List.splitOn_eq_singleton hslash
  have hdot : component ≠ ['.'] := fun hdot => h.notMem (d := '.') rfl (hdot ▸ List.mem_cons_self)
  have hkept : keptComponents component = [component] := by
    rw [keptComponents, hsplit]
    simp [hnil, hdot]
  have hparse : ¬ (component = [] ∨ component.head? = some '/' ∨ ['.', '/'] <+: component ∨
      '\\' ∈ component) := by
    rintro (hempty | hroot | ⟨rest, hrelative⟩ | hback)
    · exact hnil hempty
    · rw [h.head] at hroot
      cases hroot
    · exact h.notMem (d := '.') rfl (hrelative ▸ List.mem_cons_self)
    · exact h.notMem rfl hback
  have hportable : ∀ c ∈ keptComponents component, PortableComponent u c := by
    rw [hkept]
    intro c hc
    rw [List.mem_singleton.mp hc]
    exact h.portable hu
  have hjoin : joinSlash [component] = component := by simp [joinSlash]
  have hfits : PathFits (keptComponents component) := by
    have hshort := h.short
    rw [hkept, PathFits, hjoin, h.utf8Len_eq, h.utf16Len_eq, maxPathBytes, maxPathUtf16Units]
    exact ⟨List.cons_ne_nil _ _, by omega, by omega⟩
  let path : VaultPath u := ⟨_, hportable, named_keptComponents component, hfits⟩
  have hstr : path.asStr = component := by
    show joinSlash (keptComponents component) = component
    rw [hkept, hjoin]
  have hroot : isProtectedRoot u path = false := by
    rw [isProtectedRoot, hstr, hsplit, List.head?_cons]
    dsimp only
    rw [h.componentCollisionKey_eq hu, Bool.or_eq_false_iff, beq_eq_false_iff_ne,
      beq_eq_false_iff_ne]
    constructor
    · intro hkey
      have hhead := h.head
      rw [hkey] at hhead
      exact absurd hhead (by decide)
    · intro hkey
      have hhead := h.head
      rw [hkey] at hhead
      exact absurd hhead (by decide)
  have hfrom : fromPortable u component = some path := by
    rw [fromPortable, if_neg hparse]
    dsimp only
    rw [dif_pos hportable, dif_pos hfits]
  refine ⟨path, ?_, hstr⟩
  rw [exactVaultPath, hfrom]
  exact if_pos ⟨hstr, hroot⟩

/-- Its collision key is the digest of itself. -/
theorem exists_normalizedCollisionKey (hu : u.OnAscii) (h : PlainName component)
    (sha256 : Sha256) : ∃ key, normalizedCollisionKey u sha256 component = .ok key := by
  obtain ⟨path, hpath, hstr⟩ := h.exists_exactVaultPath hu
  have hslash : '/' ∉ component := h.notMem rfl
  have hnil : component ≠ [] := by
    rintro rfl
    cases h.head
  have hnormalized : isNormalizedComponent u component = true := by
    have hany : (component.any fun c => c == '/' || c == '\x00' || isControl c) = false := by
      rw [List.any_eq_false]
      intro c hc
      have hnat := toNat_of_isPlainChar (h.plain c hc)
      have hne : c ≠ '/' := fun hcslash => hslash (hcslash ▸ hc)
      have hzero : c ≠ '\x00' := ne_of_isPlainChar (h.plain c hc) rfl
      have hcontrol : isControl c = false := by
        simp only [isControl, Bool.or_eq_false_iff, Bool.and_eq_false_iff, decide_eq_false_iff_not]
        omega
      simp [hne, hzero, hcontrol]
    rw [isNormalizedComponent, hany, (exactVaultPath_eq_some hpath).1, Option.any_some, hstr]
    simp [hnil]
  have hsplit : splitSlash path.asStr = [component] := by
    rw [hstr]
    exact List.splitOn_eq_singleton hslash
  have hstream : ∃ stream, collisionStream u [component] = some stream := by
    rw [collisionStream, h.componentCollisionKey_eq hu, if_pos hnormalized, collisionStream]
    exact ⟨_, rfl⟩
  obtain ⟨stream, hstream⟩ := hstream
  refine ⟨hexSha256 sha256 stream, ?_⟩
  rw [normalizedCollisionKey, hpath]
  dsimp only
  rw [hsplit, hstream]

end PlainName

theorem isPlainChar_of_isLowerHexChar {c : Char} (h : isLowerHexChar c = true) :
    isPlainChar c = true := by
  rw [isLowerHexChar, Bool.or_eq_true, decide_eq_true_eq] at h
  rcases h with hdigit | ⟨ha, hf⟩
  · simp [isPlainChar, hdigit]
  · have hlower : c.isLower = true := isLower_of_hex ha hf
    simp [isPlainChar, hlower]

theorem plainName_cons {t : Text} (hplain : ∀ c ∈ t, isPlainChar c = true)
    (hlast : t.getLast? = some ')') (hshort : t.length ≤ 254) : PlainName ('x' :: t) where
  plain := by
    intro c hc
    rcases List.mem_cons.mp hc with rfl | hc
    · decide
    · exact hplain c hc
  head := List.head?_cons
  last := by
    rw [List.getLast?_cons, hlast]
    decide
  short := by
    rw [List.length_cons]
    omega

/-- A short text in front of the start of a digest, in brackets. -/
theorem plainName_suffix {front digits : Text} (hfront : ∀ c ∈ front, isPlainChar c = true)
    (hdigits : ∀ c ∈ digits, isLowerHexChar c = true)
    (hshort : front.length + digits.length ≤ 253) :
    PlainName ('x' :: (front ++ digits ++ [')'])) := by
  apply plainName_cons
  · intro c hc
    rw [List.mem_append, List.mem_append, List.mem_singleton] at hc
    rcases hc with (hc | hc) | rfl
    · exact hfront c hc
    · exact isPlainChar_of_isLowerHexChar (hdigits c hc)
    · decide
  · exact List.getLast?_concat
  · rw [List.length_append, List.length_append, List.length_singleton]
    omega

/-- The name of a copy of `x`. -/
theorem plainName_copy {conflictId : String} (h : isLowerHex64 conflictId = true) :
    PlainName ('x' :: conflictSuffix conflictId 12) := by
  rw [isLowerHex64, Bool.and_eq_true, List.all_eq_true] at h
  have hlength : " (conflict ".toList.length = 11 := by decide
  have hfront : " (conflict ".toList.all isPlainChar = true := by decide
  refine plainName_suffix (List.all_eq_true.mp hfront)
    (fun c hc => h.2 c (List.mem_of_mem_take hc)) ?_
  have htake := List.length_take_le 12 conflictId.toList
  rw [hlength]
  omega

theorem plainName_x : PlainName ['x'] :=
  ⟨List.forall_mem_singleton.mpr (by decide), rfl, by decide, by decide⟩

/-- The request for a copy of `x` where nothing is occupied. -/
def freeCopyRequest (conflictId : String) (content : ContentFingerprint) :
    ConflictCopyNameRequest where
  conflictId := conflictId
  sourcePath := "x"
  destinationParentPath := none
  expectedContent := content
  namingVersion := conflictNamingVersion
  occupied := []

/-- A copy of `x` is always created. -/
theorem exists_create_copy {u : Unicode} (hu : u.OnAscii) (sha256 : Sha256) {conflictId : String}
    (hid : isLowerHex64 conflictId = true) {content : ContentFingerprint}
    (hcontent : validFingerprint content = true) :
    ∃ name, resolveConflictCopyName u sha256 (freeCopyRequest conflictId content) =
      .create name := by
  obtain ⟨source, hsource, hstr⟩ := plainName_x.exists_exactVaultPath hu
  obtain ⟨path, hpath, hpathStr⟩ := (plainName_copy hid).exists_exactVaultPath hu
  obtain ⟨key, hkey⟩ := (plainName_copy hid).exists_normalizedCollisionKey hu sha256
  have haccepted : RequestAccepted u sha256 (freeCopyRequest conflictId content) source := by
    refine
      { naming := rfl
        conflictId := hid
        content := hcontent
        few := Nat.zero_le _
        occupied := fun _ hmem => absurd hmem List.not_mem_nil
        source := ?_
        parent := fun parent hmem => absurd hmem (Option.not_mem_none parent) }
    have hx : "x".toList = ['x'] := by decide
    rw [freeCopyRequest, hx]
    exact hsource
  have hname : sourceName u source = ['x'] := by
    rw [sourceName, hstr]
    decide
  have hbuilt : buildCandidatePath u none ['x'] [] (conflictSuffix conflictId 12) = some path := by
    rw [buildCandidatePath, List.length_singleton, buildFrom, candidatePath,
      List.take_of_length_le (Nat.le_refl 1), List.append_nil, List.singleton_append, hpath]
  have hcandidate : candidateName u sha256 (freeCopyRequest conflictId content) ['x'] [] 12 =
      .ok
        { destinationPath := String.ofList path.asStr
          normalizedCollisionKey := key
          idPrefixLength := 12
          existingObjectId := none } := by
    rw [candidateName, freeCopyRequest, Option.map_none, hbuilt]
    dsimp only
    rw [hpathStr, hkey]
  have hsplit : splitExtension ['x'] = (['x'], []) := by decide
  rw [resolveConflictCopyName_of_accepted haccepted, hname, hsplit, prefixLengths, searchPrefixes,
    hcandidate]
  exact ⟨_, rfl⟩

end Plain

/-! ## The context that is always there -/

section Anchored

variable (facts : ClassificationEvidenceFacts) (merged : Option ContentFingerprint)
  (localContent remote : ContentFingerprint)

/-- A source under the identity of the conflict. -/
def anchoredSource (objectId : String) (revision : Option String) (content : ContentFingerprint) :
    PublicationSource where
  portablePath := facts.canonicalIdentityPath.getD ""
  parentId := facts.targetParentId.getD ""
  objectId := objectId
  revision := revision
  content := content

/-- The identity of the local source: that of the conflict, unless there is a base. -/
def anchoredLocalId : String :=
  if facts.base.isSome then "local" else facts.objectIdentity.getD ""

/-- The remote source sits at `x`, so that its copy has a free name. -/
def anchoredRemote : PublicationSource :=
  { anchoredSource facts (facts.objectIdentity.getD "") facts.remoteRevision remote with
    portablePath := "x" }

/-- The target at the identity path of the facts. -/
def anchoredTarget : PublicationTarget where
  portablePath := facts.canonicalIdentityPath.getD ""
  parentId := facts.targetParentId.getD ""
  objectId := none

/-- A context the facts determine. -/
def anchoredContext : MaterializationContext where
  accountId := facts.accountId.getD ""
  remoteRootId := facts.remoteRootId.getD ""
  baseReference := none
  durableStateVersion := facts.durableStateVersion
  baseLocalRevision := none
  baseRemoteRevision := none
  base := facts.base.map (anchoredSource facts (facts.objectIdentity.getD "") none)
  localSource := some
    (anchoredSource facts (anchoredLocalId facts) facts.localRevision localContent)
  remote := some (anchoredRemote facts remote)
  localTarget := anchoredTarget facts
  conflictCopyDestinationParentPath := none
  occupiedConflictCopies := []
  renameTarget := facts.guardedMetadataTarget.map fun target =>
    { portablePath := target.portablePath
      parentId := target.parentId
      objectId := target.objectId }
  blockedRemoteSource := some (anchoredRemote facts remote)
  blockedRemoteDestination := some (anchoredTarget facts)
  mergedContent := merged

end Anchored

/-- What the facts have to bring for a context to exist. -/
structure Materializable (facts : ClassificationEvidenceFacts) (case : ConflictCase) : Prop where
  localContent : facts.localContent.isSome = true
  remote : facts.remote.isSome = true
  identity : facts.base.isSome = true ∨ ∀ id ∈ facts.objectIdentity, isPrivateReference id = true
  resolvable : case ≠ .localRenameRemoteEdited

section Exists

variable {u : Unicode} {sha256 : Sha256} {newV5 : UuidV5} {evidence : ClassificationEvidence}
  {case : ConflictCase} {localContent remote : ContentFingerprint}

/-- The identities of accepted facts, one by one. -/
structure Identified (u : Unicode) (facts : ClassificationEvidenceFacts)
    (accountId remoteRootId objectIdentity path parentId localRevision remoteRevision : String) :
    Prop where
  account : facts.accountId = some accountId
  root : facts.remoteRootId = some remoteRootId
  object : facts.objectIdentity = some objectIdentity
  identityPath : facts.canonicalIdentityPath = some path
  parent : facts.targetParentId = some parentId
  localSide : facts.localRevision = some localRevision
  remoteSide : facts.remoteRevision = some remoteRevision
  account_valid : isRemoteId accountId = true
  root_valid : isRemoteId remoteRootId = true
  object_valid : isRemoteId objectIdentity = true
  path_valid : isExactContentPath u path = true
  parent_valid : isRemoteId parentId = true
  localSide_valid : isLowerHex64 localRevision = true
  remoteSide_valid : isRemoteId remoteRevision = true

theorem Accepted.identified (h : Accepted u sha256 evidence .fresh case) :
    ∃ accountId remoteRootId objectIdentity path parentId localRevision remoteRevision,
      Identified u evidence.facts accountId remoteRootId objectIdentity path parentId
        localRevision remoteRevision := by
  have hid : ∀ id ∈ evidence.facts.exactIds, ∃ value, id = some value ∧
      isRemoteId value = true := by
    intro id hmem
    obtain ⟨value, hvalue⟩ := Option.isSome_iff_exists.mp (h.named id hmem)
    exact ⟨value, hvalue, h.ids id hmem value hvalue⟩
  obtain ⟨accountId, haccount, haccountValid⟩ :=
    hid evidence.facts.accountId (by simp [ClassificationEvidenceFacts.exactIds])
  obtain ⟨remoteRootId, hroot, hrootValid⟩ :=
    hid evidence.facts.remoteRootId (by simp [ClassificationEvidenceFacts.exactIds])
  obtain ⟨objectIdentity, hobject, hobjectValid⟩ :=
    hid evidence.facts.objectIdentity (by simp [ClassificationEvidenceFacts.exactIds])
  obtain ⟨parentId, hparent, hparentValid⟩ :=
    hid evidence.facts.targetParentId (by simp [ClassificationEvidenceFacts.exactIds])
  obtain ⟨path, hpath, hpathValid⟩ := (Option.any_eq_true _ _).mp h.identityPath
  obtain ⟨localRevision, hlocal, hlocalValid⟩ := (Option.any_eq_true _ _).mp h.localRevision
  obtain ⟨remoteRevision, hremote, hremoteValid⟩ := (Option.any_eq_true _ _).mp h.remoteRevision
  exact ⟨accountId, remoteRootId, objectIdentity, path, parentId, localRevision, remoteRevision,
    haccount, hroot, hobject, hpath, hparent, hlocal, hremote, haccountValid, hrootValid,
    hobjectValid, hpathValid, hparentValid, hlocalValid, hremoteValid⟩

theorem Accepted.content_valid (h : Accepted u sha256 evidence .fresh case)
    {content : Option ContentFingerprint}
    (hmem : content ∈ [evidence.facts.base, evidence.facts.localContent, evidence.facts.remote,
      evidence.verifiedMarkdownMerge]) {value : ContentFingerprint}
    (hvalue : content = some value) :
    validFingerprint value = true := h.contents content hmem value hvalue

theorem isPrivateReference_local : isPrivateReference "local" = true := by decide

theorem isRemoteId_of_isPrivateReference {value : String} (h : isPrivateReference value = true) :
    isRemoteId value = true := by
  rw [isPrivateReference, Bool.and_eq_true, Bool.and_eq_true, Bool.and_eq_true,
    decide_eq_true_eq, List.all_eq_true] at h
  rw [isRemoteId, Bool.and_eq_true, decide_eq_true_eq, List.all_eq_true]
  refine ⟨by omega, fun c hc => ?_⟩
  have hc := h.1.1.2 c hc
  simp only [Bool.or_eq_true] at hc
  rcases hc with (((hc | hc) | hc) | hc) | hc <;>
    simp [isIdChar, isAlphanum_iff, hc]

/-- The identity of the local source is a private reference. -/
theorem isPrivateReference_anchoredLocalId {facts : ClassificationEvidenceFacts}
    (h : Materializable facts case) {objectIdentity : String}
    (hobject : facts.objectIdentity = some objectIdentity) :
    isPrivateReference (anchoredLocalId facts) = true := by
  rw [anchoredLocalId]
  split
  · exact isPrivateReference_local
  · rename_i hbase
    rw [hobject, Option.getD_some]
    exact (h.identity.resolve_left hbase) objectIdentity hobject

theorem isExactContentPath_x (hu : u.OnAscii) : isExactContentPath u "x" = true := by
  obtain ⟨path, hpath, -⟩ := plainName_x.exists_exactVaultPath hu
  have hx : "x".toList = ['x'] := by decide
  rw [isExactContentPath, hx, hpath, Option.isSome_some]

theorem validContext_anchored (hu : u.OnAscii) (haccepted : Accepted u sha256 evidence .fresh case)
    (h : Materializable evidence.facts case)
    (hlocal : evidence.facts.localContent = some localContent)
    (hremote : evidence.facts.remote = some remote) :
    ValidContext u
      (anchoredContext evidence.facts evidence.verifiedMarkdownMerge localContent remote) := by
  obtain ⟨accountId, remoteRootId, objectIdentity, path, parentId, localRevision, remoteRevision,
    hid⟩ := haccepted.identified
  have hlocalId := isPrivateReference_anchoredLocalId h hid.object
  have hremoteValid := haccepted.content_valid (by simp) hremote
  have hblocked : ValidSource u (anchoredRemote evidence.facts remote) := by
    refine ⟨isExactContentPath_x hu, ?_, ?_, hremoteValid⟩
    · rw [anchoredRemote, anchoredSource, hid.parent]
      exact hid.parent_valid
    · rw [anchoredRemote, anchoredSource, hid.object]
      exact hid.object_valid
  have htarget : (anchoredTarget evidence.facts).isValid u = true := by
    rw [PublicationTarget.isValid, anchoredTarget, hid.identityPath, hid.parent]
    simp [hid.path_valid, hid.parent_valid]
  refine
    { version := haccepted.version
      accountId := ?_
      remoteRootId := ?_
      baseReference := fun _ hmem => absurd hmem (Option.not_mem_none _)
      baseLocalRevision := fun _ hmem => absurd hmem (Option.not_mem_none _)
      baseRemoteRevision := fun _ hmem => absurd hmem (Option.not_mem_none _)
      localRevision := ?_
      localObject := ?_
      remoteRevision := ?_
      source := ?_
      target := ?_
      copyParent := fun _ hmem => absurd hmem (Option.not_mem_none _)
      merged := fun _ hmem => haccepted.content_valid
        (show evidence.verifiedMarkdownMerge ∈ _ by simp) hmem }
  · rw [anchoredContext, hid.account]
    exact hid.account_valid
  · rw [anchoredContext, hid.root]
    exact hid.root_valid
  · intro revision hmem
    rw [anchoredContext, Option.bind_some, anchoredSource, hid.localSide] at hmem
    exact Option.some.inj hmem ▸ hid.localSide_valid
  · intro source hmem
    rw [← Option.some.inj hmem]
    exact hlocalId
  · intro revision hmem
    rw [anchoredContext, Option.bind_some, anchoredRemote, anchoredSource, hid.remoteSide] at hmem
    exact Option.some.inj hmem ▸ hid.remoteSide_valid
  · intro source hmem
    rw [isValid_source_iff]
    simp only [MaterializationContext.sources, anchoredContext, List.mem_cons, List.not_mem_nil,
      or_false] at hmem
    rcases hmem with hbase | hsame | hsame | hsame
    · obtain ⟨content, hcontent, rfl⟩ := Option.map_eq_some_iff.mp hbase.symm
      refine ⟨?_, ?_, ?_, haccepted.content_valid (by simp) hcontent⟩
      · rw [anchoredSource, hid.identityPath]
        exact hid.path_valid
      · rw [anchoredSource, hid.parent]
        exact hid.parent_valid
      · rw [anchoredSource, hid.object]
        exact hid.object_valid
    · rw [Option.some.inj hsame]
      refine ⟨?_, ?_, isRemoteId_of_isPrivateReference hlocalId,
        haccepted.content_valid (by simp) hlocal⟩
      · rw [anchoredSource, hid.identityPath]
        exact hid.path_valid
      · rw [anchoredSource, hid.parent]
        exact hid.parent_valid
    · exact Option.some.inj hsame ▸ hblocked
    · exact Option.some.inj hsame ▸ hblocked
  · intro target hmem
    simp only [MaterializationContext.targets, anchoredContext, List.mem_cons, List.not_mem_nil,
      or_false] at hmem
    rcases hmem with hsame | hrename | hsame
    · exact Option.some.inj hsame ▸ htarget
    · obtain ⟨guarded, hguarded, rfl⟩ := Option.map_eq_some_iff.mp hrename.symm
      have hvalid := haccepted.guarded guarded hguarded
      simp only [validGuardedTarget, Bool.and_eq_true, Bool.not_eq_true'] at hvalid
      obtain ⟨⟨⟨⟨⟨hpath, hparent⟩, hobject⟩, -⟩, -⟩, -⟩ := hvalid
      rw [PublicationTarget.isValid, hpath, hparent, Bool.true_and, Bool.true_and, option_all_iff]
      exact any_not_eq_false_iff.mp hobject
    · exact Option.some.inj hsame ▸ htarget

/-- The context is bound to the facts it is built from. -/
theorem bound_anchored (haccepted : Accepted u sha256 evidence .fresh case)
    (hlocal : evidence.facts.localContent = some localContent)
    (hremote : evidence.facts.remote = some remote) {classification : ConflictPlan}
    (hguarded : classification.drafts.any (·.isGuardedMetadata) = true →
      evidence.facts.guardedMetadataTarget.isSome = true) :
    Bound classification evidence
      (anchoredContext evidence.facts evidence.verifiedMarkdownMerge localContent remote) := by
  obtain ⟨accountId, remoteRootId, objectIdentity, path, parentId, localRevision, remoteRevision,
    hid⟩ := haccepted.identified
  have hidentity : (anchoredContext evidence.facts evidence.verifiedMarkdownMerge localContent
      remote).identitySource.map (fun source => (source.objectId, source.portablePath)) =
        some (objectIdentity, path) := by
    rw [MaterializationContext.identitySource, anchoredContext]
    cases hbase : evidence.facts.base with
    | none =>
        rw [Option.map_none, Option.none_or, Option.some_or, Option.map_some, anchoredSource,
          anchoredLocalId, hbase, hid.object, hid.identityPath]
        rfl
    | some content =>
        rw [Option.map_some, Option.some_or, Option.some_or, Option.map_some, anchoredSource,
          hid.object, hid.identityPath]
        rfl
  obtain ⟨source, hsource, hpair⟩ := Option.map_eq_some_iff.mp hidentity
  obtain ⟨hsourceId, hsourcePath⟩ := Prod.mk.inj hpair
  refine
    { accountId := ?_
      remoteRootId := ?_
      objectIdentity := ?_
      identityPath := ?_
      targetParentId := ?_
      base := ?_
      localContent := hlocal
      remote := hremote
      localRevision := rfl
      remoteRevision := rfl
      version := rfl
      guarded := ?_
      merged := fun _ => rfl }
  · rw [anchoredContext, hid.account, Option.getD_some]
  · rw [anchoredContext, hid.root, Option.getD_some]
  · rw [hid.object, hsource, Option.map_some, hsourceId]
  · rw [hid.identityPath, hsource, Option.map_some, hsourcePath]
  · rw [anchoredContext, anchoredTarget, hid.parent, Option.getD_some]
  · rw [anchoredContext, Option.map_map]
    exact Option.map_id'.symm
  · rw [guardedTargetMatches]
    split
    · rename_i hany
      obtain ⟨target, htarget⟩ := Option.isSome_iff_exists.mp (hguarded hany)
      rw [anchoredContext, htarget]
      simp
    · rfl

/-! ## What the requirements ask for -/

/-- What a requirement asks of the outcome and the evidence. -/
def Answered (outcome : ConflictOutcome) (evidence : ClassificationEvidence) :
    ConflictDraft → Prop
  | .mergePublish => evidence.verifiedMarkdownMerge.isSome = true
  | .basePublish =>
      outcome = .guardedLocalReplace ∨ outcome = .needsReconcile ∨
        (outcome = .safeTextMergeLocal ∧ evidence.verifiedMarkdownMerge.isSome = true)
  | .guardedLocalRename | .guardedLocalMove | .guardedLocalRenameMove =>
      evidence.facts.guardedMetadataTarget.isSome = true
  | _ => True

/-- What a case that drafts a requirement has made sure of. -/
def Ensured (case : ConflictCase) : ConflictDraft → Prop
  | .mergePublish => case = .nonOverlappingMarkdownChanges
  | .basePublish =>
      (classifyFreshCase case).outcome = .guardedLocalReplace ∨
        (classifyFreshCase case).outcome = .needsReconcile ∨
        case = .nonOverlappingMarkdownChanges ∨ case = .localRenameRemoteEdited
  | .guardedLocalRename | .guardedLocalMove | .guardedLocalRenameMove =>
      caseRequiresGuardedTarget case = true
  | _ => True

instance (requirement : ConflictDraft) : Decidable (Ensured case requirement) := by
  unfold Ensured
  split <;> infer_instance

theorem ensured_of_mem {requirement : ConflictDraft}
    (hmem : requirement ∈ (classifyFreshCase case).drafts) : Ensured case requirement := by
  revert hmem
  cases case with
  | bothDeleted proof => cases proof <;> exact fun hmem => absurd hmem List.not_mem_nil
  | remoteContentChanged capability | bothChangedWithoutExactBase capability
  | invalidOrAmbiguousText capability | mergeInputExceedsBounds capability
  | destinationCreatedVsMoveOrRename capability | distinctCreatesAtEquivalentPath capability
  | portableEquivalentDestinationCollision capability =>
      cases capability <;> cases requirement <;> decide
  | localEditedRemoteRename guard | localEditedRemoteMove guard | renameMoveConflict guard
  | childChangedWithParentChanged guard => cases guard <;> cases requirement <;> decide
  | _ => cases requirement <;> decide

theorem answered_of_accepted (haccepted : Accepted u sha256 evidence .fresh case)
    (hcase : case ≠ .localRenameRemoteEdited) {requirement : ConflictDraft}
    (hmem : requirement ∈ (classifyFreshCase case).drafts) :
    Answered (classifyFreshCase case).outcome evidence requirement := by
  have hmerge : case = .nonOverlappingMarkdownChanges →
      evidence.verifiedMarkdownMerge.isSome = true := haccepted.merge rfl
  have hensured := ensured_of_mem hmem
  cases requirement with
  | mergePublish => exact hmerge hensured
  | basePublish =>
      rcases hensured with houtcome | houtcome | rfl | hrename
      · exact Or.inl houtcome
      · exact Or.inr (Or.inl houtcome)
      · exact Or.inr (Or.inr ⟨rfl, hmerge rfl⟩)
      · exact absurd hrename hcase
  | guardedLocalRename | guardedLocalMove | guardedLocalRenameMove =>
      exact haccepted.guardedRequired hensured
  | localContentPublish | conflictCopyPublish | remoteExistingBlocked => trivial

/-- Every requirement with an answer is drafted from the context of the facts. -/
theorem exists_draftFor_anchored (hu : u.OnAscii) {classification : ConflictPlan}
    {conflictId : String} (hid : isLowerHex64 conflictId = true)
    (hvalid : validFingerprint remote = true) {requirement : ConflictDraft}
    (hanswered : Answered classification.outcome evidence requirement) :
    ∃ drafted, draftFor u sha256 newV5 classification
      (anchoredContext evidence.facts evidence.verifiedMarkdownMerge localContent remote)
      conflictId requirement = .ok drafted := by
  have hguarded : ∀ (kind : LocalPlanKind) (domain : ConflictOperationDomain),
      evidence.facts.guardedMetadataTarget.isSome = true → ∃ drafted,
        guardedMetadataDraft newV5 kind domain
          (anchoredContext evidence.facts evidence.verifiedMarkdownMerge localContent remote)
          conflictId = .ok drafted := by
    intro kind domain hsome
    obtain ⟨target, htarget⟩ := Option.isSome_iff_exists.mp hsome
    rw [guardedMetadataDraft, anchoredContext, htarget]
    exact ⟨_, rfl⟩
  cases requirement with
  | localContentPublish => exact ⟨_, rfl⟩
  | mergePublish =>
      obtain ⟨merged, hmerged⟩ := Option.isSome_iff_exists.mp hanswered
      rw [draftFor, anchoredContext, hmerged]
      exact ⟨_, rfl⟩
  | conflictCopyPublish =>
      obtain ⟨name, hname⟩ := exists_create_copy hu sha256 hid hvalid
      have hrequest : copyNameRequest
          (anchoredContext evidence.facts evidence.verifiedMarkdownMerge localContent remote)
          (anchoredRemote evidence.facts remote) conflictId =
            freeCopyRequest conflictId remote := rfl
      have hremote : (anchoredContext evidence.facts evidence.verifiedMarkdownMerge localContent
          remote).remote = some (anchoredRemote evidence.facts remote) := rfl
      rw [draftFor, hremote]
      dsimp only
      rw [hrequest, hname]
      exact ⟨_, rfl⟩
  | basePublish =>
      have hbase : ∃ content, resolvedBase classification.outcome
          (anchoredContext evidence.facts evidence.verifiedMarkdownMerge localContent remote) =
            some content := by
        rcases hanswered with houtcome | houtcome | ⟨houtcome, hmerged⟩
        · rw [houtcome]
          exact ⟨_, rfl⟩
        · rw [houtcome]
          exact ⟨_, rfl⟩
        · rw [houtcome]
          exact Option.isSome_iff_exists.mp hmerged
      obtain ⟨content, hcontent⟩ := hbase
      rw [draftFor, hcontent]
      exact ⟨_, rfl⟩
  | remoteExistingBlocked => exact ⟨_, rfl⟩
  | guardedLocalRename => exact hguarded _ _ hanswered
  | guardedLocalMove => exact hguarded _ _ hanswered
  | guardedLocalRenameMove => exact hguarded _ _ hanswered

/-- An accepted conflict has an identity. -/
theorem exists_deriveBoundConflictId (haccepted : Accepted u sha256 evidence .fresh case)
    (classification : ConflictPlan) : ∃ conflictId,
      deriveBoundConflictId u sha256 classification evidence.facts = .ok conflictId := by
  obtain ⟨accountId, remoteRootId, objectIdentity, path, parentId, localRevision, remoteRevision,
    hid⟩ := haccepted.identified
  have hcontent : ∀ content ∈ [evidence.facts.localContent, evidence.facts.remote,
      evidence.facts.base], (content.any fun value => !validFingerprint value) = false := by
    intro content hmem
    rw [any_not_eq_false_iff]
    refine fun value hvalue => haccepted.contents content ?_ value hvalue
    simp only [List.mem_cons, List.not_mem_nil, or_false] at hmem ⊢
    tauto
  have hpath : ¬ (exactVaultPath u path.toList).isNone = true := by
    rw [Option.isNone_iff_eq_none, ← Ne, ← Option.isSome_iff_ne_none]
    exact hid.path_valid
  rw [deriveBoundConflictId, hid.account, hid.root, hid.object, hid.identityPath, hid.parent]
  dsimp only
  rw [deriveConflictId, validateIdentityInput, if_neg (not_not.mpr rfl), if_neg hpath, if_neg]
  · exact ⟨_, rfl⟩
  · dsimp only
    rw [hcontent _ (by simp), hcontent _ (by simp), hcontent _ (by simp)]
    simp [hid.account_valid, hid.root_valid, hid.object_valid, hid.parent_valid]

/-! ## When there is a context -/

/-- A classification has a context only if the content of both sides is there. -/
theorem Bound.content_isSome {classification : ConflictPlan} {context : MaterializationContext}
    (hbound : Bound classification evidence context)
    (haccepted : Accepted u sha256 evidence .fresh case) :
    evidence.facts.localContent.isSome = true ∧ evidence.facts.remote.isSome = true := by
  obtain ⟨hlocal, hremote⟩ := hbound.sources_isSome haccepted
  rw [hbound.localContent, hbound.remote, Option.isSome_map, Option.isSome_map]
  exact ⟨hlocal, hremote⟩

/-- Without a base the identity is that of the local source. -/
theorem Bound.isPrivateReference_identity {classification : ConflictPlan}
    {context : MaterializationContext} (hbound : Bound classification evidence context)
    (hvalid : ValidContext u context) (haccepted : Accepted u sha256 evidence .fresh case)
    (hbase : evidence.facts.base = none) {id : String}
    (hid : evidence.facts.objectIdentity = some id) : isPrivateReference id = true := by
  obtain ⟨source, hsource⟩ := Option.isSome_iff_exists.mp (hbound.sources_isSome haccepted).1
  have hnone : context.base = none := Option.map_eq_none_iff.mp (hbound.base.symm.trans hbase)
  rw [hbound.objectIdentity, MaterializationContext.identitySource, hnone, hsource] at hid
  cases hid
  exact hvalid.localObject source hsource

/-- No base is resolved for a blocked remote mutation. -/
theorem not_draftOf_basePublish {context : MaterializationContext} {conflictId : String}
    {draft : MaterializationDraft} :
    ¬ DraftOf u sha256 newV5 .remoteMutationBlocked context conflictId .basePublish draft := by
  obtain ⟨operationId, kind, durableOperationKind, source, destination, content, marker⟩ := draft
  rintro ⟨-, -, hshape⟩
  cases hshape with
  | basePublish hcontent => cases hcontent
  | guarded hguarded => cases hguarded

theorem classifyConflict_fresh {input : ConflictInput u sha256}
    (h : ConflictInput.fresh u sha256 evidence case = .ok input) :
    classifyConflict input = (classifyFreshCase case).bindEvidence evidence ∧
      Accepted u sha256 evidence .fresh case := by
  obtain ⟨haccepted, rfl⟩ := exists_of_fresh_ok h
  exact ⟨rfl, validateClassificationEvidence_eq_ok.mp haccepted⟩

/-- **Which accepted classifications can be materialized**: those where the content of both
sides is there, the base is there or the identity is a private one, and the case drafts no
base publication under an outcome that resolves none. -/
theorem materializable_iff (hu : u.OnAscii) {input : ConflictInput u sha256}
    (hfresh : ConflictInput.fresh u sha256 evidence case = .ok input) :
    (∃ context plan, materializeConflictPlan u sha256 newV5 (classifyConflict input) context =
      .ok plan) ↔ Materializable evidence.facts case := by
  obtain ⟨hclassify, haccepted⟩ := classifyConflict_fresh hfresh
  rw [hclassify]
  constructor
  · rintro ⟨context, plan, hplan⟩
    obtain ⟨sealed, conflictId, hmaterializes⟩ := materializes_of_ok hplan
    cases hmaterializes.carries
    have hbound := hmaterializes.bound
    obtain ⟨hlocal, hremote⟩ := hbound.content_isSome haccepted
    refine ⟨hlocal, hremote, ?_, ?_⟩
    · cases hbase : evidence.facts.base with
      | some base => exact Or.inl rfl
      | none =>
          exact Or.inr fun id hid =>
            hbound.isPrivateReference_identity hmaterializes.valid haccepted hbase hid
    · rintro rfl
      have hmem : .basePublish ∈ (classifyFreshCase .localRenameRemoteEdited).drafts :=
        List.mem_cons_of_mem _ List.mem_cons_self
      obtain ⟨draft, -, hof⟩ := exists_of_mem_left hmaterializes.drafts hmem
      exact not_draftOf_basePublish hof
  · intro h
    obtain ⟨localContent, hlocal⟩ := Option.isSome_iff_exists.mp h.localContent
    obtain ⟨remote, hremote⟩ := Option.isSome_iff_exists.mp h.remote
    obtain ⟨conflictId, hid⟩ := exists_deriveBoundConflictId haccepted
      ((classifyFreshCase case).bindEvidence evidence)
    have hdigest := isLowerHex64_of_deriveBoundConflictId hid
    have hvalid := haccepted.content_valid (by simp) hremote
    have hdrafts : ∀ requirement ∈ (classifyFreshCase case).drafts, ∃ drafted,
        draftFor u sha256 newV5 ((classifyFreshCase case).bindEvidence evidence)
          (anchoredContext evidence.facts evidence.verifiedMarkdownMerge localContent remote)
          conflictId requirement = .ok drafted := fun requirement hmem =>
      exists_draftFor_anchored hu hdigest hvalid (answered_of_accepted haccepted h.resolvable hmem)
    obtain ⟨drafted, hdrafted⟩ := exists_mapEach_ok hdrafts
    refine ⟨anchoredContext evidence.facts evidence.verifiedMarkdownMerge localContent remote,
      materializationPlan ((classifyFreshCase case).bindEvidence evidence) evidence
        (anchoredContext evidence.facts evidence.verifiedMarkdownMerge localContent remote)
        conflictId drafted, ?_⟩
    rw [materializeConflictPlan, seq_eq_ok, validateContext_eq_ok]
    refine ⟨validContext_anchored hu haccepted h hlocal hremote,
      bind_eq_ok.mpr ⟨evidence, rfl, ?_⟩⟩
    rw [seq_eq_ok, validateClassificationBinding_eq_ok]
    refine ⟨bound_anchored haccepted hlocal hremote fun hany => ?_,
      bind_eq_ok.mpr ⟨conflictId, hid, bind_eq_ok.mpr ⟨drafted, hdrafted, rfl⟩⟩⟩
    obtain ⟨requirement, hmem, hguarded⟩ := List.any_eq_true.mp hany
    have hensured := ensured_of_mem hmem
    refine haccepted.guardedRequired ?_
    cases requirement with
    | guardedLocalRename | guardedLocalMove | guardedLocalRenameMove => exact hensured
    | _ => cases hguarded

end Exists

/-! ## A conflict without a context -/

/-- A note deleted locally and edited remotely: it has no local content. -/
def deletedEvidence : ClassificationEvidence :=
  .new { noteFacts with localContent := none }

theorem deletedEvidence_accepted : validateClassificationEvidence Unicode.ascii noteDigest
    deletedEvidence .approved .fresh .localDeleteRemoteEdited = .ok () := by decide +kernel

/-- A local deletion of a note that was edited remotely. -/
def deletedInput : ConflictInput Unicode.ascii noteDigest :=
  ⟨deletedEvidence, .approved, .fresh, .localDeleteRemoteEdited, deletedEvidence_accepted⟩

/-- The deletion is accepted, and no context is bound to it. -/
theorem accepted_deletion_is_a_dead_end :
    ConflictInput.fresh Unicode.ascii noteDigest deletedEvidence .localDeleteRemoteEdited =
        .ok deletedInput ∧
      ¬ ∃ context plan, materializeConflictPlan Unicode.ascii noteDigest noteV5
        (classifyConflict deletedInput) context = .ok plan := by
  refine ⟨fresh_eq_ok deletedEvidence_accepted, ?_⟩
  rintro ⟨context, plan, hplan⟩
  obtain ⟨sealed, conflictId, hmaterializes⟩ := materializes_of_ok hplan
  cases hmaterializes.carries
  have hpresent := hmaterializes.bound.content_isSome
    (validateClassificationEvidence_eq_ok.mp deletedEvidence_accepted)
  cases hpresent.1

theorem materializable_iff_note :
    (∃ context plan, materializeConflictPlan Unicode.ascii noteDigest noteV5
      (classifyConflict noteInput) context = .ok plan) ↔
        Materializable noteEvidence.facts .nonOverlappingMarkdownChanges :=
  materializable_iff Unicode.ascii_onAscii noteInput_fresh

end Conflict
end MyVault
