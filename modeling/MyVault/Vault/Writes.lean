import MyVault.Vault.Outcomes

/-!
# How the writes end

Each write makes a temporary file, fills it and publishes it.  Up to the publication a
failure leaves at most the temporary file behind (`Ending.of_prepublication`); what comes
after it differs: `create_new` and `replace_content_file_if_revision` leave the outcome
open, and `atomic_write` reports the failed flush as any other failure
(`atomicWrite_flush`).
-/

namespace MyVault
namespace Vault
namespace Stepwise

open Program VaultPath

variable {u : Unicode} {blake3 : Blake3} {faults : Faults} {pid : ℕ} {w w' : World}
  {checks : VaultProgram Location}

theorem afterTemp_iff {parent : Location} {name : String} {w₁ w₂ : World}
    (hchecks : exec checks w = (.ok parent, w₁))
    (hcreate : exec (createTemp faults pid parent) w₁ = (.ok name, w₂))
    {P : Location → String → World → Prop} :
    AfterTemp faults pid checks w P ↔ P parent name w₂ := by
  constructor
  · rintro ⟨parent', w₁', name', w₂', h₁, h₂, hP⟩
    obtain ⟨hparent, rfl⟩ := Prod.mk.inj (hchecks.symm.trans h₁)
    cases hparent
    obtain ⟨hname, rfl⟩ := Prod.mk.inj (hcreate.symm.trans h₂)
    cases hname
    exact hP
  · exact fun hP => ⟨parent, w₁, name, w₂, hchecks, hcreate, hP⟩

/-- A write has no temporary file and has changed nothing, or it goes on with a new file. -/
theorem afterTemp_cases [hkeeps : Keeps KeptBytes checks]
    {f : Location → String → VaultProgram Unit} {x : Except CoreError Unit}
    (h : exec (do let parent ← checks; let name ← createTemp faults pid parent; f parent name) w =
      (x, w')) :
    (∃ e, x = .error e ∧ SameBytes w.disk w'.disk ∧ ∀ P, ¬ AfterTemp faults pid checks w P) ∨
      ∃ parent w₁ name w₂, exec checks w = (.ok parent, w₁) ∧
        exec (createTemp faults pid parent) w₁ = (.ok name, w₂) ∧
        SameBytes w.disk w₁.disk ∧ NewFile w₁.disk w₂.disk (parent ++ [.utf8 name]) [] ∧
        exec (f parent name) w₂ = (x, w') := by
  rw [exec_bind] at h
  cases hchecks : exec checks w with
  | mk y w₁ =>
      have hsame : SameBytes w.disk w₁.disk := Keeps.of_exec (R := KeptBytes) hkeeps hchecks
      rw [hchecks] at h
      cases y with
      | error e =>
          cases h
          refine Or.inl ⟨e, rfl, hsame, fun P => ?_⟩
          rintro ⟨parent, w₂, name, w₃, h₁, -⟩
          rw [hchecks] at h₁
          exact nomatch h₁
      | ok parent =>
          dsimp only at h
          rw [exec_bind] at h
          cases hcreate : exec (createTemp faults pid parent) w₁ with
          | mk z w₂ =>
              rw [hcreate] at h
              rcases createTempFrom_run hcreate with ⟨⟨e, rfl⟩, hdisk⟩ | ⟨name, rfl, hnew⟩
              · cases h
                refine Or.inl ⟨e, rfl, ?_, fun P => ?_⟩
                · rw [hdisk]
                  exact hsame
                · rintro ⟨parent', w₁', name, w₃, h₁, h₂, -⟩
                  obtain ⟨hparent, rfl⟩ := Prod.mk.inj (hchecks.symm.trans h₁)
                  cases hparent
                  rw [hcreate] at h₂
                  exact nomatch h₂
              · exact Or.inr ⟨parent, w₁, name, w₂, rfl, hcreate, hsame, hnew, h⟩

theorem not_failsAndKeeps {α : Type} {p : VaultProgram α} {temp : Location} {a : α} {w₁ : World}
    (h : exec p w = (.ok a, w₁)) : ¬ FailsAndKeeps faults temp p w := by
  rintro ⟨e, w₂, kind, w₃, hfail, -⟩
  rw [h] at hfail
  exact nomatch hfail

/-- After steps that failed the temporary file is removed, or nothing happens to it. -/
theorem failsAndKeeps_or {α : Type} {p : VaultProgram α} {temp : Location} {e : CoreError}
    {w₁ : World} (herror : exec p w = (.error e, w₁))
    (hremove : exec (tryRemove faults temp) w₁ = (.ok (), w')) :
    ¬ FailsAndKeeps faults temp p w ∧ w₁.disk.removeFile temp = .ok w'.disk ∨
      FailsAndKeeps faults temp p w ∧ w'.disk = w₁.disk := by
  obtain ⟨-, hchange⟩ := tryRemove_run hremove
  rcases exec_change hchange with ⟨hok, hremoved⟩ | ⟨⟨kind, hkind⟩, hdisk⟩
  · refine Or.inl ⟨?_, hremoved⟩
    rintro ⟨e', w₁', kind, w₂, hfail, hkept⟩
    obtain ⟨-, rfl⟩ := Prod.mk.inj (herror.symm.trans hfail)
    rw [hkept] at hok
    exact nomatch hok
  · refine Or.inr ⟨⟨e, w₁, kind, w', herror, ?_⟩, hdisk⟩
    rw [← hkind]
    exact hchange

instance plain_writeTemp {temp : Location} {contents : List UInt8} :
    Plain (writeTemp faults temp contents) :=
  Reports.bind_of inferInstance fun _ => inferInstance

/-- The bytes are written and the file is published, or the file is still there. -/
theorem writeThen_run {d : Disk} {temp : Location} {contents : List UInt8}
    {f : Disk → Except IoKind Disk} {x : Except CoreError Unit} (hnew : NewFile d w.disk temp [])
    (h : exec (do writeTemp faults temp contents; io (change faults f)) w = (x, w')) :
    (x = .ok () ∧ ∃ d', NewFile d d' temp contents ∧ f d' = .ok w'.disk) ∨
      ∃ e bytes, x = .error e ∧ e.isUnknown = false ∧ NewFile d w'.disk temp bytes := by
  rw [exec_bind] at h
  cases hwrite : exec (writeTemp faults temp contents) w with
  | mk y w₁ =>
      obtain ⟨bytes, hbytes, hall⟩ := writeTemp_run hnew hwrite
      rw [hwrite] at h
      cases y with
      | error e =>
          cases h
          exact Or.inr ⟨e, bytes, rfl, plain_writeTemp.isUnknown_eq _ _ _ hwrite, hbytes⟩
      | ok _ =>
          obtain rfl := hall rfl
          cases hchange : exec (change faults f) w₁ with
          | mk z w₂ =>
              dsimp only at h
              rw [io, exec_mapError, hchange] at h
              rcases exec_change hchange with ⟨rfl, hchanged⟩ | ⟨⟨kind, rfl⟩, hdisk⟩
              · cases h
                exact Or.inl ⟨rfl, _, hbytes, hchanged⟩
              · cases h
                rw [← hdisk] at hbytes
                exact Or.inr ⟨.io kind, bytes, rfl, rfl, hbytes⟩

/-- The temporary file that stays is a slip if its path is a content path. -/
theorem Ending.of_kept {call : Call u} {d : Disk} {temp : Location} {bytes : List UInt8}
    {e : CoreError} (hsame : SameBytes w.disk d) (hstill : NewFile d w'.disk temp bytes)
    (he : e.isUnknown = false) (hslips : Slips blake3 faults pid w call ↔ IsContent u temp) :
    Ending blake3 faults pid call w (.error e) w' := by
  by_cases hcontent : IsContent u temp
  · refine .slipped he hcontent ?_ (hslips.mpr hcontent)
    rw [← hsame]
    exact hstill.bytesAt_ne
  · refine .unchanged (fun location hlocation => ?_) fun hslip => hcontent (hslips.mp hslip)
    have hne : location ≠ temp := by
      rintro rfl
      exact hcontent hlocation
    rw [hstill.bytesAt_of_ne hne, hsame]

theorem atomicWriteChecks_ok {relative : VaultPath u} {intent : WriteIntent} {parent : Location}
    (h : exec (atomicWriteChecks u faults relative intent) w = (.ok parent, w')) :
    entry parent (nameOf relative) = pathOf relative := by
  obtain ⟨⟨⟩, w₁, -, h⟩ := exec_bind_ok.mp h
  obtain ⟨found, w₂, hparent, h⟩ := exec_bind_ok.mp h
  obtain ⟨⟨⟩, w₃, -, h⟩ := exec_bind_ok.mp h
  obtain ⟨⟨⟩, w₄, -, h⟩ := exec_bind_ok.mp h
  obtain ⟨rfl, -⟩ := exec_pure_ok.mp h
  rw [openParentChecked_ok hparent, entry_folders]

/-- After the rename the flush of the directory fails. -/
theorem atomicWrite_flush {relative : VaultPath u} {contents : List UInt8} {intent : WriteIntent}
    {d : Disk} {temp : Location} {w₁ w₂ w₃ : World} {e : CoreError}
    (hsame : SameBytes w.disk d) (hfree : d.tree.nodeAt temp = none)
    (hsets : Sets d w₂.disk (pathOf relative) contents ∧
      (pathOf relative ≠ temp → w₂.disk.tree.nodeAt temp = none))
    (hpublish : exec (renameTemp faults temp (pathOf relative) contents) w₁ = (.ok (), w₂))
    (hsync : exec (io (syncDirectory faults)) w₂ = (.error e, w₃))
    (hremove : exec (tryRemove faults temp) w₃ = (.ok (), w'))
    (hslips : Slips blake3 faults pid w (.atomicWrite relative contents intent) ↔
      FailsAndKeeps faults temp (renameTemp faults temp (pathOf relative) contents) w₁ ∧
          IsContent u temp ∨
        ∃ w₂, exec (renameTemp faults temp (pathOf relative) contents) w₁ = (.ok (), w₂) ∧
          FailsAndKeeps faults temp (io (syncDirectory faults)) w₂ ∧
          IsContent u (pathOf relative) ∧ w.disk.bytesAt (pathOf relative) ≠ some contents) :
    Ending blake3 faults pid (.atomicWrite relative contents intent) w (.error e) w' := by
  have hslips : Slips blake3 faults pid w (.atomicWrite relative contents intent) ↔
      FailsAndKeeps faults temp (io (syncDirectory faults)) w₂ ∧
        IsContent u (pathOf relative) ∧ w.disk.bytesAt (pathOf relative) ≠ some contents := by
    refine hslips.trans ⟨?_, fun h => Or.inr ⟨w₂, hpublish, h⟩⟩
    rintro (⟨hfails, -⟩ | ⟨w₄, hok, h⟩)
    · exact absurd hfails (not_failsAndKeeps hpublish)
    · obtain ⟨-, rfl⟩ := Prod.mk.inj (hpublish.symm.trans hok)
      exact h
  have hbytes : ∀ location, location ≠ pathOf relative →
      w₃.disk.bytesAt location = w.disk.bytesAt location := fun location hne => by
    rw [same_of_exec hsync, hsets.1, if_neg hne, hsame]
  rcases failsAndKeeps_or hsync hremove with ⟨hno, hremoved⟩ | ⟨hyes, hdisk⟩
  · refine .unchanged (fun location _ => ?_) fun hslip => hno (hslips.mp hslip).1
    -- what was removed is the destination itself
    have htemp : pathOf relative = temp := by
      by_contra hne
      refine Disk.ne_none_of_removeFile hremoved ?_
      rw [same_of_exec hsync]
      exact hsets.2 hne
    by_cases heq : location = temp
    · rw [heq, ← hsame, bytesAt_of_free hfree, bytesAt_of_free]
      rw [Disk.nodeAt_removeFile hremoved, if_pos rfl]
    · rw [← hbytes location (by rwa [htemp])]
      exact Disk.bytesAt_congr (by rw [Disk.nodeAt_removeFile hremoved, if_neg heq])
  · have hplain := Reports.io.isUnknown_eq _ _ _ hsync
    by_cases hchanged : IsContent u (pathOf relative) ∧
        w.disk.bytesAt (pathOf relative) ≠ some contents
    · refine .slipped hplain hchanged.1 ?_ (hslips.mpr ⟨hyes, hchanged⟩)
      rw [hdisk, same_of_exec hsync, hsets.1, if_pos rfl]
      exact hchanged.2.symm
    · refine .unchanged (fun location hlocation => ?_) fun hslip => hchanged (hslips.mp hslip).2
      rw [hdisk]
      by_cases heq : location = pathOf relative
      · rw [heq, same_of_exec hsync, hsets.1, if_pos rfl]
        rw [heq] at hlocation
        exact (not_not.mp fun hne => hchanged ⟨hlocation, hne⟩).symm
      · exact hbytes location heq

theorem atomicWrite_ending (relative : VaultPath u) (contents : List UInt8) (intent : WriteIntent)
    {x : Except CoreError Unit}
    (h : exec (atomicWrite u faults pid relative contents intent) w = (x, w')) :
    Ending blake3 faults pid (.atomicWrite relative contents intent) w x w' := by
  rcases afterTemp_cases h with ⟨e, rfl, hsame, hno⟩ |
    ⟨parent, w₁, name, w₂, hchecks, hcreate, hsame, hnew, hrun⟩
  · exact .unchanged (fun location _ => hsame location) (hno _)
  have hslips : Slips blake3 faults pid w (.atomicWrite relative contents intent) ↔ _ :=
    afterTemp_iff hchecks hcreate
  rw [atomicWriteChecks_ok hchecks] at hrun
  rcases orRemove_run hrun with ⟨⟨⟩, rfl, hok⟩ | ⟨e, w₃, rfl, herror, hremove⟩
  · obtain ⟨⟨⟩, w₃, hwrite, hok⟩ := exec_bind_ok.mp hok
    obtain ⟨⟨⟩, w₄, hrename, hsync⟩ := exec_bind_ok.mp hok
    have hpublish : exec (renameTemp faults (parent ++ [.utf8 name]) (pathOf relative) contents)
        w₂ = (.ok (), w₄) := exec_bind_ok.mpr ⟨(), w₃, hwrite, hrename⟩
    rcases writeThen_run hnew hpublish with ⟨-, d, hfile, hrenamed⟩ | ⟨e, bytes, he, -⟩
    · refine .done (fun location => ?_) fun hslip => ?_
      · rw [same_of_exec hsync, (hfile.rename hrenamed).1, hsame]
      · rcases hslips.mp hslip with ⟨hfails, -⟩ | ⟨w₅, hok, hfails, -⟩
        · exact not_failsAndKeeps hpublish hfails
        · obtain ⟨-, rfl⟩ := Prod.mk.inj (hpublish.symm.trans hok)
          exact not_failsAndKeeps hsync hfails
    · exact nomatch he
  · have hassoc : exec (do
        renameTemp faults (parent ++ [.utf8 name]) (pathOf relative) contents
        io (syncDirectory faults)) w₂ = (.error e, w₃) := by
      rw [renameTemp, bind_assoc]
      exact herror
    rcases exec_bind_error.mp hassoc with hfail | ⟨⟨⟩, w₄, hpublish, hsync⟩
    · rcases writeThen_run hnew hfail with ⟨hok, -⟩ | ⟨e', bytes, he, hplain, hstill⟩
      · exact nomatch hok
      cases he
      have hiff : Slips blake3 faults pid w (.atomicWrite relative contents intent) ↔
          FailsAndKeeps faults (parent ++ [.utf8 name])
              (renameTemp faults (parent ++ [.utf8 name]) (pathOf relative) contents) w₂ ∧
            IsContent u (parent ++ [.utf8 name]) := by
        refine hslips.trans ⟨?_, Or.inl⟩
        rintro (h | ⟨w₅, hok, -⟩)
        · exact h
        · rw [hfail] at hok
          exact nomatch hok
      rcases failsAndKeeps_or hfail hremove with ⟨hno, hremoved⟩ | ⟨hyes, hdisk⟩
      · refine .unchanged (fun location _ => ?_) fun hslip => hno (hiff.mp hslip).1
        rw [hstill.removeFile hremoved, hsame]
      · rw [← hdisk] at hstill
        exact .of_kept hsame hstill hplain (hiff.trans (and_iff_right hyes))
    · rcases writeThen_run hnew hpublish with ⟨-, d, hfile, hrenamed⟩ | ⟨e', bytes, he, -⟩
      · exact atomicWrite_flush hsame hnew.free (hfile.rename hrenamed) hpublish hsync hremove
          hslips
      · exact nomatch he

/-- A failure before the publication, once the attempt to remove the file is over. -/
theorem Ending.of_prepublication {call : Call u} {α : Type} {p : VaultProgram α} {d : Disk}
    {temp : Location} {bytes : List UInt8} {e : CoreError} {w₁ w₂ : World}
    (hsame : SameBytes w.disk d) (hfail : exec p w₁ = (.error e, w₂))
    (hremove : exec (tryRemove faults temp) w₂ = (.ok (), w')) (hplain : e.isUnknown = false)
    (hstill : NewFile d w₂.disk temp bytes)
    (hslips : Slips blake3 faults pid w call ↔ FailsAndKeeps faults temp p w₁ ∧ IsContent u temp) :
    Ending blake3 faults pid call w (.error e) w' := by
  rcases failsAndKeeps_or hfail hremove with ⟨hno, hremoved⟩ | ⟨hyes, hdisk⟩
  · refine .unchanged (fun location _ => ?_) fun hslip => hno (hslips.mp hslip).1
    rw [hstill.removeFile hremoved, hsame]
  · rw [← hdisk] at hstill
    exact .of_kept hsame hstill hplain (hslips.trans (and_iff_right hyes))

theorem createNewChecks_ok {relative : VaultPath u} {intent : WriteIntent} {parent : Location}
    (h : exec (createNewChecks u faults relative intent) w = (.ok parent, w')) :
    entry parent (nameOf relative) = pathOf relative := by
  obtain ⟨⟨⟩, w₁, -, h⟩ := exec_bind_ok.mp h
  have hrest : ∀ w₂, exec (do
      let parent ← openParent u faults relative
      rejectSiblingCollision u faults parent (nameOf relative) relative.asStr
      rejectFinalSymlink faults (entry parent (nameOf relative))
      pure parent) w₂ = (.ok parent, w') → entry parent (nameOf relative) = pathOf relative := by
    intro w₂ h
    obtain ⟨found, w₃, hparent, h⟩ := exec_bind_ok.mp h
    obtain ⟨⟨⟩, w₄, -, h⟩ := exec_bind_ok.mp h
    obtain ⟨⟨⟩, w₅, -, h⟩ := exec_bind_ok.mp h
    obtain ⟨rfl, -⟩ := exec_pure_ok.mp h
    rw [openParent_ok hparent, entry_folders]
  split at h
  · obtain ⟨⟨⟩, w₂, -, h⟩ := exec_bind_ok.mp h
    exact hrest w₂ h
  · exact hrest w₁ h

/-- After the hard link every failure leaves the outcome open. -/
theorem createNew_published {relative : VaultPath u} {contents : List UInt8} {intent : WriteIntent}
    {d d' : Disk} {temp : Location} {name : String} {w₁ : World} {x : Except CoreError Unit}
    (hsame : SameBytes w.disk d) (hfile : NewFile d d' temp contents)
    (hlink : d'.hardLink temp (pathOf relative) = .ok w₁.disk)
    (hno : ¬ Slips blake3 faults pid w (.createNew relative contents intent))
    (h : exec (do
      mapError (CoreError.commitOutcomeUnknown relative.asStr) (syncDirectory faults)
      mapError (CoreError.publishedCleanupPending relative.asStr name)
        (change faults (·.removeFile temp))
      mapError (CoreError.publishedCleanupPending relative.asStr name) (syncDirectory faults)) w₁ =
        (x, w')) :
    Ending blake3 faults pid (.createNew relative contents intent) w x w' := by
  cases x with
  | ok _ =>
      obtain ⟨⟨⟩, w₂, hsync, h⟩ := exec_bind_ok.mp h
      obtain ⟨⟨⟩, w₃, hremove, hflush⟩ := exec_bind_ok.mp h
      refine .done (fun location => ?_) hno
      rcases exec_change (exec_mapError_ok.mp hremove) with ⟨-, hremoved⟩ | ⟨⟨kind, hkind⟩, -⟩
      · rw [same_of_exec hsync] at hremoved
        rw [same_of_exec hflush, hfile.hardLink hlink _ hremoved, hsame]
      · exact nomatch hkind
  | error e =>
      refine .unknown ?_ hno
      rcases exec_bind_error.mp h with h | ⟨⟨⟩, w₂, -, h⟩
      · obtain ⟨kind, -, rfl⟩ := exec_mapError_error.mp h
        rfl
      · rcases exec_bind_error.mp h with h | ⟨⟨⟩, w₃, -, h⟩
        · obtain ⟨kind, -, rfl⟩ := exec_mapError_error.mp h
          rfl
        · obtain ⟨kind, -, rfl⟩ := exec_mapError_error.mp h
          rfl

theorem createNew_ending (relative : VaultPath u) (contents : List UInt8) (intent : WriteIntent)
    {x : Except CoreError Unit}
    (h : exec (createNew u faults pid relative contents intent) w = (x, w')) :
    Ending blake3 faults pid (.createNew relative contents intent) w x w' := by
  rcases afterTemp_cases h with ⟨e, rfl, hsame, hno⟩ |
    ⟨parent, w₁, name, w₂, hchecks, hcreate, hsame, hnew, hrun⟩
  · exact .unchanged (fun location _ => hsame location) (hno _)
  have hslips : Slips blake3 faults pid w (.createNew relative contents intent) ↔ _ :=
    afterTemp_iff hchecks hcreate
  rw [createNewChecks_ok hchecks] at hrun
  rw [exec_bind] at hrun
  cases hpublish : exec (orRemove faults (parent ++ [.utf8 name])
      (linkTemp faults (parent ++ [.utf8 name]) (pathOf relative) contents)) w₂ with
  | mk y w₃ =>
      rw [linkTemp] at hpublish
      rw [hpublish] at hrun
      rcases orRemove_run hpublish with ⟨⟨⟩, rfl, hok⟩ | ⟨e, w₄, rfl, hfail, hremove⟩
      · have hno : ¬ Slips blake3 faults pid w (.createNew relative contents intent) :=
          fun hslip => not_failsAndKeeps hok (hslips.mp hslip).1
        rcases writeThen_run hnew hok with ⟨-, d, hfile, hlink⟩ | ⟨e, bytes, he, -⟩
        · exact createNew_published hsame hfile hlink hno hrun
        · exact nomatch he
      · cases hrun
        rcases writeThen_run hnew hfail with ⟨hok, -⟩ | ⟨e', bytes, he, hplain, hstill⟩
        · exact nomatch hok
        · cases he
          exact .of_prepublication hsame hfail hremove hplain hstill hslips

section Replace

variable {relative : VaultPath u} {expected : FileRevision} {contents : List UInt8} {maxBytes : ℕ}

theorem replaceContentChecks_ok {parent : Location}
    (h : exec (replaceContentChecks u blake3 faults relative expected contents maxBytes) w =
      (.ok parent, w')) : parent = locationOf (folders relative) := by
  obtain ⟨⟨⟩, w₁, -, h⟩ := exec_bind_ok.mp h
  obtain ⟨⟨⟩, w₂, -, h⟩ := exec_bind_ok.mp h
  obtain ⟨⟨⟩, w₃, -, h⟩ := exec_bind_ok.mp h
  obtain ⟨⟨⟩, w₄, -, h⟩ := exec_bind_ok.mp h
  obtain ⟨found, w₅, hparent, h⟩ := exec_bind_ok.mp h
  obtain ⟨⟨⟩, w₆, -, h⟩ := exec_bind_ok.mp h
  obtain ⟨⟨⟩, w₇, -, h⟩ := exec_bind_ok.mp h
  obtain ⟨⟨⟩, w₈, -, h⟩ := exec_bind_ok.mp h
  obtain ⟨rfl, -⟩ := exec_pure_ok.mp h
  exact openParentChecked_ok hparent

theorem replaceContentRecheck_ok {parent latest : Location} {tempName : String}
    (h : exec (replaceContentRecheck u blake3 faults relative expected contents maxBytes parent
      tempName) w = (.ok latest, w')) : latest = locationOf (folders relative) := by
  obtain ⟨found, w₁, hparent, h⟩ := exec_bind_ok.mp h
  obtain ⟨same, w₂, -, h⟩ := exec_bind_ok.mp h
  obtain ⟨⟨⟩, w₃, -, h⟩ := exec_bind_ok.mp h
  obtain ⟨⟨⟩, w₄, -, h⟩ := exec_bind_ok.mp h
  obtain ⟨⟨⟩, w₅, -, h⟩ := exec_bind_ok.mp h
  obtain ⟨⟨⟩, w₆, -, h⟩ := exec_bind_ok.mp h
  obtain ⟨⟨⟩, w₇, -, h⟩ := exec_bind_ok.mp h
  obtain ⟨rfl, -⟩ := exec_pure_ok.mp h
  exact openParentChecked_ok hparent

/-- The destination is replaced, or the temporary file is still there. -/
theorem replaceTemp_run {d : Disk} {name : String} {x : Except CoreError Location}
    (hnew : NewFile d w.disk (locationOf (folders relative) ++ [.utf8 name]) [])
    (h : exec (replaceTemp blake3 faults relative expected contents maxBytes
      (locationOf (folders relative)) name) w = (x, w')) :
    (x = .ok (locationOf (folders relative)) ∧ Sets d w'.disk (pathOf relative) contents) ∨
      ∃ e bytes, x = .error e ∧ e.isUnknown = false ∧
        NewFile d w'.disk (locationOf (folders relative) ++ [.utf8 name]) bytes := by
  rw [replaceTemp, exec_bind] at h
  cases hwrite : exec (writeTemp faults (locationOf (folders relative) ++ [.utf8 name]) contents) w
    with
  | mk y w₁ =>
      obtain ⟨bytes, hbytes, hall⟩ := writeTemp_run hnew hwrite
      rw [hwrite] at h
      cases y with
      | error e =>
          cases h
          exact Or.inr ⟨e, bytes, rfl, plain_writeTemp.isUnknown_eq _ _ _ hwrite, hbytes⟩
      | ok _ =>
          obtain rfl := hall rfl
          dsimp only at h
          rw [exec_bind] at h
          cases hcheck : exec (replaceContentRecheck u blake3 faults relative expected bytes
            maxBytes
              (locationOf (folders relative)) name) w₁ with
          | mk z w₂ =>
              rw [hcheck] at h
              rw [← same_of_exec hcheck] at hbytes
              cases z with
              | error e =>
                  cases h
                  exact Or.inr ⟨e, bytes, rfl,
                    plain_replaceContentRecheck.isUnknown_eq _ _ _ hcheck, hbytes⟩
              | ok latest =>
                  obtain rfl := replaceContentRecheck_ok hcheck
                  dsimp only at h
                  rw [exec_bind, entry_folders, io, exec_mapError] at h
                  cases hrename : exec (change faults
                      (·.rename (locationOf (folders relative) ++ [.utf8 name]) (pathOf relative)))
                      w₂ with
                  | mk v w₃ =>
                      rw [hrename] at h
                      rcases exec_change hrename with ⟨rfl, hrenamed⟩ | ⟨⟨kind, rfl⟩, hdisk⟩
                      · cases h
                        exact Or.inl ⟨rfl, (hbytes.rename hrenamed).1⟩
                      · cases h
                        rw [← hdisk] at hbytes
                        exact Or.inr ⟨.io kind, bytes, rfl, rfl, hbytes⟩

theorem replaceContentFile_ending {x : Except CoreError Unit}
    (h : exec (replaceContentFile u blake3 faults pid relative expected contents maxBytes) w =
      (x, w')) :
    Ending blake3 faults pid (.replaceContentFile relative expected contents maxBytes) w x w' := by
  rcases afterTemp_cases h with ⟨e, rfl, hsame, hno⟩ |
    ⟨parent, w₁, name, w₂, hchecks, hcreate, hsame, hnew, hrun⟩
  · exact .unchanged (fun location _ => hsame location) (hno _)
  have hslips : Slips blake3 faults pid w
      (.replaceContentFile relative expected contents maxBytes) ↔ _ :=
    afterTemp_iff hchecks hcreate
  obtain rfl := replaceContentChecks_ok hchecks
  rw [exec_bind] at hrun
  cases hpublish : exec (orRemove faults (locationOf (folders relative) ++ [.utf8 name])
      (replaceTemp blake3 faults relative expected contents maxBytes
        (locationOf (folders relative)) name)) w₂ with
  | mk y w₃ =>
      rw [replaceTemp] at hpublish
      rw [hpublish] at hrun
      rcases orRemove_run hpublish with ⟨latest, rfl, hok⟩ | ⟨e, w₄, rfl, hfail, hremove⟩
      · have hno : ¬ Slips blake3 faults pid w
            (.replaceContentFile relative expected contents maxBytes) :=
          fun hslip => not_failsAndKeeps hok (hslips.mp hslip).1
        rcases replaceTemp_run hnew hok with ⟨hlatest, hsets⟩ | ⟨e, bytes, he, -⟩
        · cases hlatest
          cases x with
          | ok _ =>
              refine .done (fun location => ?_) hno
              rw [same_of_exec hrun, hsets, hsame]
          | error e => exact .unknown (Reports.isUnknown_eq _ _ _ hrun) hno
        · exact nomatch he
      · cases hrun
        rcases replaceTemp_run hnew hfail with ⟨hok, -⟩ | ⟨e', bytes, he, hplain, hstill⟩
        · exact nomatch hok
        · cases he
          exact .of_prepublication hsame hfail hremove hplain hstill hslips

end Replace

end Stepwise
end Vault
end MyVault
