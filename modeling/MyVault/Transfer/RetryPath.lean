import MyVault.Transfer.OneFile

/-!
# What the retry path proves

An attempt that ends with a verified transfer has taken one of three ways, and the answers to
its queries show which (`Way`).  The one by the marker does not ask for the name.  So the name
was found to be unique if and only if no file had the marker when the attempt asked for it.

## How the argument goes

The queries of an attempt and their answers are kept in the state of the provider, in order
(`answered`), so that what an attempt has asked is a fact about the run.  `FoundUnique` is about
these answers alone.  The three ways differ in their first answer: a file with the marker ends the
attempt there, and without one the name is asked for before the upload and after it.

The condition is then carried back to the state before the attempt: nothing that the attempt does
before its first query makes a file appear that this query would find (`Hidden`), unless other
devices use the marker.
-/

namespace MyVault
namespace Transfer

open Drive Program TransferDrive

variable {drive : TransferDrive} {provider : Provider} {net : ℕ → Turn} {side : LocalSide}
  {remote remote' : Remote} {create : CreateIntent} {fileId : String}

/-- The answers of an attempt that has verified a file. -/
inductive Way (create : CreateIntent) (fileId : String) :
    List (FileQuery × List StoredFile) → Prop
  | byMarker {file : StoredFile} (hid : file.id = fileId) :
      Way create fileId [(markerQuery create, [file])]
  | byName {file : StoredFile} (hid : file.id = fileId) :
      Way create fileId [(markerQuery create, []), (nameQuery create, [file])]
  | created {marked named : StoredFile} (hmarked : marked.id = fileId)
      (hnamed : named.id = fileId) :
      Way create fileId [(markerQuery create, []), (nameQuery create, []),
        (markerQuery create, [marked]), (nameQuery create, [named])]

/-- The name query has found exactly the file, and no marker query another one. -/
def FoundUnique (create : CreateIntent) (fileId : String)
    (asked : List (FileQuery × List StoredFile)) : Prop :=
  (∃ file, (nameQuery create, [file]) ∈ asked ∧ file.id = fileId) ∧
    ∀ found, (markerQuery create, found) ∈ asked → ∀ file ∈ found, file.id = fileId

/-- Only the way by the marker does not find the name. -/
theorem Way.foundUnique_iff {asked : List (FileQuery × List StoredFile)}
    (h : Way create fileId asked) :
    ∃ first rest, asked = (markerQuery create, first) :: rest ∧
      (FoundUnique create fileId asked ↔ first = []) := by
  cases h with
  | byMarker hid =>
      refine ⟨_, _, rfl, iff_of_false ?_ (List.cons_ne_nil _ _)⟩
      rintro ⟨⟨file, hfile, -⟩, -⟩
      rw [List.mem_singleton] at hfile
      exact nomatch hfile
  | byName hid =>
      refine ⟨_, _, rfl, iff_of_true ⟨⟨_, by simp, hid⟩, fun found hfound => ?_⟩ rfl⟩
      simp only [List.mem_cons, List.not_mem_nil, or_false] at hfound
      rcases hfound with hfound | hfound
      · cases hfound
        exact nofun
      · exact nomatch hfound
  | created hmarked hnamed =>
      refine ⟨_, _, rfl, iff_of_true ⟨⟨_, by simp, hnamed⟩, fun found hfound => ?_⟩ rfl⟩
      simp only [List.mem_cons, List.not_mem_nil, or_false] at hfound
      rcases hfound with hfound | hfound | hfound | hfound
      · cases hfound
        exact nofun
      · exact nomatch hfound
      · cases hfound
        intro file hfile
        rw [List.mem_singleton.mp hfile]
        exact hmarked
      · exact nomatch hfound

/-! ## The answers of an attempt -/

/-- No live file of the folder carries the marker, as far as the provider knows. -/
def Unmarked (create : CreateIntent) (remote : Remote) : Prop :=
  ∀ file ∈ remote.files, (markerQuery create).selects file = false

/-- No file appears that the query for the marker would find. -/
def Hidden (net : ℕ → Turn) (create : CreateIntent) (remote remote' : Remote) : Prop :=
  Apart net create.operationMarker → (Unmarked create remote' ↔ Unmarked create remote)

instance : Std.Refl (Hidden net create) := ⟨fun _ _ => Iff.rfl⟩

instance : IsTrans Remote (Hidden net create) :=
  ⟨fun _ _ _ h h' hapart => (h' hapart).trans (h hapart)⟩

instance : Forgets (Hidden net create) := ⟨fun _ _ _ => Iff.rfl⟩

instance : Arrives provider net (Hidden net create) := by
  refine ⟨fun remote hapart => ?_⟩
  obtain ⟨added, hrows, hadded⟩ := @exists_arrive provider net create.operationMarker hapart remote
  rw [List.filter_eq_nil_iff] at hadded
  refine ⟨fun h file hfile => h file ?_, fun h file hfile => ?_⟩
  · rw [← Table.mem_rows, hrows]
    exact List.mem_append_left _ hfile
  · rw [← Table.mem_rows, hrows] at hfile
    rcases List.mem_append.mp hfile with hold | hnew
    · exact h file hold
    · have hcarries := hadded file hnew
      rw [Bool.not_eq_true] at hcarries
      rw [markerQuery, FileQuery.selects, hcarries, Bool.and_false]

/-- A query for the marker that is answered, and what the provider had before. -/
theorem markerQuery_answered {pageSize : ℕ} {files : List TransferFile}
    (h : exec (drive.queryFilesWithPageSize provider net (markerQuery create) pageSize) remote =
      (.ok files, remote')) :
    ∃ found, files = found.map (StoredFile.transferFile provider.sha256) ∧
      remote'.answered = remote.answered ++ [(markerQuery create, found)] ∧
      (Apart net create.operationMarker → (found = [] ↔ Unmarked create remote)) := by
  obtain ⟨found, hfound, hfiles, hanswered⟩ := queryFilesWithPageSize_ok h
  have hhidden : Hidden net create remote remote' := keeps_queryFilesWithPageSize.of_exec h
  refine ⟨found, hfiles, hanswered, fun hapart => ?_⟩
  rw [← hhidden hapart, hfound, List.filter_eq_nil_iff]
  exact forall₂_congr fun file _ => by rw [Bool.not_eq_true]

theorem nameQuery_answered {pageSize : ℕ} {files : List TransferFile}
    (h : exec (drive.queryFilesWithPageSize provider net (nameQuery create) pageSize) remote =
      (.ok files, remote')) :
    ∃ found, files = found.map (StoredFile.transferFile provider.sha256) ∧
      remote'.answered = remote.answered ++ [(nameQuery create, found)] := by
  obtain ⟨found, -, hfiles, hanswered⟩ := queryFilesWithPageSize_ok h
  exact ⟨found, hfiles, hanswered⟩

theorem map_eq_singleton {found : List StoredFile} {file : TransferFile}
    (h : [file] = found.map (StoredFile.transferFile provider.sha256)) :
    ∃ stored, found = [stored] ∧ stored.id = file.id := by
  match found with
  | [stored] =>
      rw [List.map_singleton, List.singleton_inj] at h
      exact ⟨stored, rfl, congrArg TransferFile.id h.symm⟩

theorem requireUniqueCreatedMatch_ok {found : List TransferFile} {created : RemoteObject}
    (h : requireUniqueCreatedMatch found create created = .ok ()) :
    ∃ file, found = [file] ∧ file.id = created.fileId := by
  match found with
  | [file] =>
      rw [requireUniqueCreatedMatch] at h
      split at h
      · rename_i hmatch
        exact ⟨file, rfl, hmatch.1⟩
      · exact nomatch h
  | [] => exact nomatch h
  | _ :: _ :: _ => exact nomatch h

theorem silent_put {uri : ℕ} (offset : Option ℕ) (bytes : List UInt8) (remote : Remote) :
    Silent remote (remote.put provider uri offset bytes) := by
  rw [Remote.put]
  split <;> rfl

/-- The answers are those of one of the ways, and the first says what there was. -/
theorem way_of_remoteFor {turns : ℕ} {object : RemoteObject}
    (h : exec (remoteFor drive provider net side turns create) remote = (.ok object, remote')) :
    ∃ first rest, remote'.answered = remote.answered ++ (markerQuery create, first) :: rest ∧
      Way create object.fileId ((markerQuery create, first) :: rest) ∧
      (Apart net create.operationMarker → (first = [] ↔ Unmarked create remote)) := by
  rcases remoteFor_ok h with hreconcile | ⟨reconciled, opened, session, uploaded, created,
    hreconcile, hinitiate, hloop, hverify⟩
  · obtain ⟨file, asked, ⟨hmarker, hmarked⟩ | ⟨hmarker, named, hname, hnamed⟩⟩ :=
      reconcileCreate_existing hreconcile
    · obtain ⟨found, hfound, hanswered, hfirst⟩ := markerQuery_answered hmarker
      obtain ⟨stored, rfl, hid⟩ := map_eq_singleton hfound
      have hsilent : Silent asked remote' := keeps_reconcileMarked.of_exec hmarked
      have hobject := (reconcileMarked_existing hmarked).2
      exact ⟨_, _, hsilent.trans hanswered, .byMarker (hid.trans hobject.symm), hfirst⟩
    · obtain ⟨found, hfound, hanswered, hfirst⟩ := markerQuery_answered hmarker
      obtain rfl := List.map_eq_nil_iff.mp hfound.symm
      obtain ⟨byName, hbyName, hanswered'⟩ := nameQuery_answered hname
      obtain ⟨stored, rfl, hid⟩ := map_eq_singleton hbyName
      have hsilent : Silent named remote' := keeps_reconcileNamed.of_exec hnamed
      have hobject := (reconcileNamed_existing hnamed).2
      refine ⟨_, _, hsilent.trans ?_, .byName (hid.trans hobject.symm), hfirst⟩
      rw [hanswered', hanswered, List.append_assoc]
      rfl
  · obtain ⟨-, asked, hmarker, hname⟩ := reconcileCreate_absent hreconcile
    obtain ⟨found, hfound, hanswered, hfirst⟩ := markerQuery_answered hmarker
    obtain rfl := List.map_eq_nil_iff.mp hfound.symm
    obtain ⟨found', hfound', hanswered'⟩ := nameQuery_answered hname
    obtain rfl := List.map_eq_nil_iff.mp hfound'.symm
    have hopened : Silent reconciled opened :=
      (@keeps_initiateResumableCreate drive provider net Silent _ _ _ _ fun _ => rfl).of_exec
        hinitiate
    have hloaded : Silent opened uploaded := (keeps_uploadLoop silent_put).of_exec hloop
    obtain ⟨-, hobject, byMarker, again, byName, named, hmarker', hunique, hname', hunique',
      hsilent⟩ := verifyCreatedUpload_ok hverify
    obtain ⟨file, rfl, hfile⟩ := requireUniqueCreatedMatch_ok hunique
    obtain ⟨file', rfl, hfile'⟩ := requireUniqueCreatedMatch_ok hunique'
    obtain ⟨_, hmarked, hanswered₃, -⟩ := markerQuery_answered hmarker'
    obtain ⟨stored, rfl, hid⟩ := map_eq_singleton hmarked
    obtain ⟨_, hnamed, hanswered₄⟩ := nameQuery_answered hname'
    obtain ⟨stored', rfl, hid'⟩ := map_eq_singleton hnamed
    refine ⟨_, _, hsilent.trans ?_, .created (hid.trans (hfile.trans hobject.symm))
      (hid'.trans (hfile'.trans hobject.symm)), hfirst⟩
    rw [hanswered₄, hanswered₃, hloaded, hopened, hanswered', hanswered]
    simp only [List.append_assoc, List.cons_append, List.nil_append]

/-- In whatever state earlier attempts have left the provider, an attempt that returns a verified
transfer has found the name to be unique if and only if its first query, the one for the
marker, has found nothing; which it does, unless other devices use the marker, where no
live file of the folder carried it before. -/
theorem verified_foundUnique_iff {provider : Provider} {create : CreateIntent}
    {remote remote' : Remote} {verified : VerifiedTransfer} (attempt : Attempt)
    (hcreate : attempt.intent.createIntent = create)
    (hrun : exec (attempt.run provider) remote = (.ok verified, remote')) :
    ∃ first rest, remote'.answered = remote.answered ++ (markerQuery create, first) :: rest ∧
      (FoundUnique create verified.remoteFileId ((markerQuery create, first) :: rest) ↔
        first = []) ∧
      (Apart attempt.net create.operationMarker → (first = [] ↔ Unmarked create remote)) := by
  subst hcreate
  obtain ⟨inspected, object, hinspect, hremote, hid⟩ := executeUpload_ok hrun
  have hsilent : Silent remote inspected := keeps_inspectObserved.of_exec hinspect
  have hhidden : Hidden attempt.net attempt.intent.createIntent remote inspected :=
    keeps_inspectObserved.of_exec hinspect
  obtain ⟨first, rest, hanswered, hway, hfirst⟩ := way_of_remoteFor hremote
  refine ⟨first, rest, by rw [hanswered, hsilent], ?_, fun hapart => ?_⟩
  · rw [hid]
    obtain ⟨first', rest', hasked, hiff⟩ := hway.foundUnique_iff
    cases hasked
    exact hiff
  · rw [hfirst hapart, hhidden hapart]

/-- A file of the same name that another device creates. -/
def twinNote : NewFile where
  name := "a.md"
  mimeType := "text/markdown"
  parents := ["root"]
  appProperties := none
  content := some []

theorem verified_foundUnique_iff_note :
    ∃ verified remote' rest,
      exec ((noteAttempt fun _ => []).run growingProvider) emptyRemote = (.ok verified, remote') ∧
        FoundUnique noteUpload.createIntent verified.remoteFileId
          ((markerQuery noteUpload.createIntent, []) :: rest) := by
  have hok : (exec ((noteAttempt fun _ => []).run growingProvider) emptyRemote).1.isOk = true := by
    decide +kernel
  cases hrun : exec ((noteAttempt fun _ => []).run growingProvider) emptyRemote with
  | mk x remote' =>
      rw [hrun] at hok
      cases x with
      | error e => exact nomatch hok
      | ok verified =>
          obtain ⟨first, rest, -, hiff, hfirst⟩ :=
            verified_foundUnique_iff (noteAttempt fun _ => []) rfl hrun
          have hnone : ∀ file ∈ [rootFolder],
              (markerQuery noteUpload.createIntent).selects file = false := by decide
          obtain rfl := (hfirst fun _ => nofun).mpr hnone
          exact ⟨verified, remote', rest, rfl, hiff.mpr rfl⟩

/-- The verification fails because of a second file of that name; the next attempt finds its
marker and is done, and does not ask for the name. -/
theorem retry_skips_name :
    let first := exec ((noteAttempt fun n => if n = 20 then [twinNote] else []).run growingProvider)
      emptyRemote
    let second := exec ((noteAttempt fun _ => []).run growingProvider) first.2
    (match first.1 with
      | .error (.failed failure) => some failure.code
      | _ => none) = some "drive_ambiguous_remote" ∧
    (second.1.map fun verified => verified.remoteFileId).toOption = some "fffff" ∧
    (second.2.answered.drop first.2.answered.length).map Prod.fst =
      [markerQuery noteUpload.createIntent] ∧
    second.2.files.count (nameQuery noteUpload.createIntent).selects = 2 := by
  decide +kernel

end Transfer
end MyVault
