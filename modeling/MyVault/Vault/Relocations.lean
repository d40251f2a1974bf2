import MyVault.Vault.Outcomes

/-!
# How the moves end

A move is one rename that replaces nothing, so what comes before it changes nothing and
what fails after it leaves the outcome open.  A case rename is two: what fails between
them, or at the second one, is reported as a plain error.
-/

namespace MyVault
namespace Vault
namespace Stepwise

open Program VaultPath

variable {u : Unicode} {blake3 : Blake3} {faults : Faults} {pid : ℕ} {w w' : World}

/-- A rename has moved what stood at the source to a free path, or nothing has changed. -/
theorem rename_run {g : IoKind → CoreError} {source destination : Location}
    {x : Except CoreError Unit}
    (h : exec (mapError g (change faults (·.renameNoReplace source destination))) w = (x, w')) :
    (x = .ok () ∧ Relocated w.disk w'.disk source destination ∧
        w.disk.tree.nodeAt destination = none) ∨ ∃ e, x = .error e ∧ w'.disk = w.disk := by
  rw [exec_mapError] at h
  cases hchange : exec (change faults (·.renameNoReplace source destination)) w with
  | mk y w₁ =>
      rw [hchange] at h
      rcases exec_change hchange with ⟨rfl, hrename⟩ | ⟨⟨kind, rfl⟩, hdisk⟩
      · cases h
        obtain ⟨hsource, hfree⟩ := Disk.ends_of_renameNoReplace hrename
        exact Or.inl ⟨rfl, ⟨hsource, Disk.nodeAt_renameNoReplace hrename⟩, hfree⟩
      · cases h
        exact Or.inr ⟨g kind, rfl, hdisk⟩

theorem not_slips_atomicMove {source destination : VaultPath u} {intent : WriteIntent} :
    ¬ Slips blake3 faults pid w (.atomicMove source destination intent) := id

theorem not_slips_moveContentFile {source destination : VaultPath u} {expected : FileRevision} :
    ¬ Slips blake3 faults pid w (.moveContentFile source destination expected) := id

section AtomicMove

variable {source destination : VaultPath u} {intent : WriteIntent}

theorem atomicMoveChecks_ok {ends : Location × Location}
    (h : exec (atomicMoveChecks u faults source destination) w = (.ok ends, w')) :
    ends = (pathOf source, pathOf destination) := by
  obtain ⟨⟨⟩, w₁, -, h⟩ := exec_bind_ok.mp h
  obtain ⟨sourceParent, w₂, hsource, h⟩ := exec_bind_ok.mp h
  obtain ⟨⟨⟩, w₃, -, h⟩ := exec_bind_ok.mp h
  obtain ⟨found, w₄, -, h⟩ := exec_bind_ok.mp h
  obtain ⟨⟨⟩, w₅, -, h⟩ := exec_bind_ok.mp h
  obtain ⟨destinationParent, w₆, hdestination, h⟩ := exec_bind_ok.mp h
  obtain ⟨⟨⟩, w₇, -, h⟩ := exec_bind_ok.mp h
  obtain ⟨rfl, -⟩ := exec_pure_ok.mp h
  rw [openParentChecked_ok hsource, openParentChecked_ok hdestination, entry_folders,
    entry_folders]

/-- The report comes after the move; where there is none, nothing has moved. -/
theorem atomicMoveLockedReport_run {x : Except CoreError MoveSyncReport}
    (h : exec (atomicMoveLockedReport u faults source destination) w = (x, w')) :
    ((∃ report, x = .ok report) ∧
        Relocated w.disk w'.disk (pathOf source) (pathOf destination)) ∨
      ∃ e, x = .error e ∧ (w'.disk = w.disk ∨ e.isUnknown = true) := by
  rw [atomicMoveLockedReport, exec_bind] at h
  cases hchecks : exec (atomicMoveChecks u faults source destination) w with
  | mk y w₁ =>
      have hdisk := same_of_exec hchecks
      rw [hchecks] at h
      cases y with
      | error e =>
          cases h
          exact Or.inr ⟨e, rfl, Or.inl hdisk⟩
      | ok ends =>
          obtain rfl := atomicMoveChecks_ok hchecks
          dsimp only at h
          rw [exec_bind] at h
          cases hrename : exec (mapError (mapAtomicMoveError source.asStr destination.asStr)
              (change faults (·.renameNoReplace (pathOf source) (pathOf destination)))) w₁ with
          | mk z w₂ =>
              rw [hrename] at h
              rcases rename_run hrename with ⟨rfl, hmoved, -⟩ | ⟨e, rfl, hsame⟩
              · dsimp only at h
                rw [hdisk, ← same_of_exec h] at hmoved
                cases x with
                | ok report => exact Or.inl ⟨⟨report, rfl⟩, hmoved⟩
                | error e =>
                    exact Or.inr ⟨e, rfl, Or.inr (hedged_syncParents.isUnknown_eq _ _ _ h)⟩
              · cases h
                exact Or.inr ⟨e, rfl, Or.inl (hsame.trans hdisk)⟩

theorem atomicMove_ending {x : Except CoreError Unit}
    (h : exec (atomicMove u faults source destination intent) w = (x, w')) :
    Ending blake3 faults pid (.atomicMove source destination intent) w x w' := by
  rw [atomicMove, exec_bind, exec_lift] at h
  cases hsource : validateMutationPolicy source intent with
  | error e =>
      rw [hsource] at h
      cases h
      exact .unchanged (fun _ _ => rfl) not_slips_atomicMove
  | ok _ =>
      rw [hsource] at h
      dsimp only at h
      rw [exec_bind, exec_lift] at h
      cases hdestination : validateMutationPolicy destination intent with
      | error e =>
          rw [hdestination] at h
          cases h
          exact .unchanged (fun _ _ => rfl) not_slips_atomicMove
      | ok _ =>
          rw [hdestination] at h
          dsimp only at h
          rw [exec_bind] at h
          cases hreport : exec (atomicMoveLockedReport u faults source destination) w with
          | mk y w₁ =>
              rw [hreport] at h
              rcases atomicMoveLockedReport_run hreport with ⟨⟨report, rfl⟩, hmoved⟩ |
                ⟨e, rfl, hsame | hunknown⟩
              · dsimp only at h
                rw [exec_lift] at h
                obtain ⟨rfl, rfl⟩ := Prod.mk.inj h
                cases hresult : report.intoResult source.asStr destination.asStr with
                | ok _ => exact .done hmoved not_slips_atomicMove
                | error e => exact .unknown (intoResult_error hresult) not_slips_atomicMove
              · cases h
                exact .unchanged (fun _ _ => by rw [hsame]) not_slips_atomicMove
              · cases h
                exact .unknown hunknown not_slips_atomicMove

end AtomicMove

section MoveContent

variable {source destination : VaultPath u} {expected : FileRevision}

theorem verifyContentMoveTopology_ok {atSource atDestination : Location}
    (h : exec (verifyContentMoveTopology u blake3 faults source destination expected atSource
      atDestination) w = (.ok (), w')) :
    Holds blake3 w.disk (pathOf destination) expected ∧
      (faults.Honest → w.disk.tree.nodeAt (pathOf source) = none) := by
  obtain ⟨destinationParent, w₁, hdestination, h⟩ := exec_bind_ok.mp h
  obtain ⟨sourceParent, w₂, hsource, h⟩ := exec_bind_ok.mp h
  obtain ⟨same, w₃, hsame, h⟩ := exec_bind_ok.mp h
  obtain ⟨⟨⟩, w₄, hrequire, h⟩ := exec_bind_ok.mp h
  obtain ⟨⟨⟩, w₅, hexpected, h⟩ := exec_bind_ok.mp h
  obtain ⟨⟨⟩, w₆, hlink, habsent⟩ := exec_bind_ok.mp h
  have hdisk₄ : w₄.disk = w.disk := by
    rw [same_of_exec hrequire, same_of_exec hsame, same_of_exec hsource,
      same_of_exec hdestination]
  have hdisk₆ : w₆.disk = w.disk := by rw [same_of_exec hlink, same_of_exec hexpected, hdisk₄]
  rw [openParentChecked_ok hdestination, entry_folders] at hexpected
  rw [openParentChecked_ok hsource, entry_folders] at habsent
  refine ⟨?_, fun hfaults => ?_⟩
  · rw [← hdisk₄]
    exact verifyExpectedFromParent_ok hexpected
  · rw [← hdisk₆]
    exact verifySourceAbsent_ok hfaults habsent

theorem moveContentChecks_ok {atSource atDestination : Location} {inSource inDestination : Bool}
    (h : exec (moveContentChecks u faults source destination expected) w =
      (.ok (atSource, atDestination, inSource, inDestination), w')) :
    atSource = locationOf (folders source) ∧ atDestination = locationOf (folders destination) := by
  obtain ⟨⟨⟩, w₁, -, h⟩ := exec_bind_ok.mp h
  obtain ⟨⟨⟩, w₂, -, h⟩ := exec_bind_ok.mp h
  obtain ⟨⟨⟩, w₃, -, h⟩ := exec_bind_ok.mp h
  obtain ⟨⟨⟩, w₄, -, h⟩ := exec_bind_ok.mp h
  obtain ⟨⟨⟩, w₅, -, h⟩ := exec_bind_ok.mp h
  obtain ⟨first, w₆, -, h⟩ := exec_bind_ok.mp h
  obtain ⟨second, w₇, -, h⟩ := exec_bind_ok.mp h
  obtain ⟨report, w₈, -, h⟩ := exec_bind_ok.mp h
  obtain ⟨⟨⟩, w₉, -, h⟩ := exec_bind_ok.mp h
  obtain ⟨⟨⟩, w₁₀, -, h⟩ := exec_bind_ok.mp h
  obtain ⟨third, w₁₁, hdestination, h⟩ := exec_bind_ok.mp h
  obtain ⟨fourth, w₁₂, hsource, h⟩ := exec_bind_ok.mp h
  obtain ⟨same, w₁₃, -, h⟩ := exec_bind_ok.mp h
  obtain ⟨⟨⟩, w₁₄, -, h⟩ := exec_bind_ok.mp h
  obtain ⟨⟨⟩, w₁₅, -, h⟩ := exec_bind_ok.mp h
  obtain ⟨⟨⟩, w₁₆, -, h⟩ := exec_bind_ok.mp h
  obtain ⟨_, w₁₇, -, h⟩ := exec_bind_ok.mp h
  obtain ⟨_, w₁₈, -, h⟩ := exec_bind_ok.mp h
  cases h
  exact ⟨openParentChecked_ok hsource, openParentChecked_ok hdestination⟩

theorem moveContentRecheck_ok {atDestination : Location} {latest : Location × Location}
    (h : exec (moveContentRecheck u blake3 faults source destination expected
      (locationOf (folders source)) atDestination) w = (.ok latest, w')) :
    Holds blake3 w.disk (pathOf source) expected ∧
      latest = (locationOf (folders source), locationOf (folders destination)) := by
  obtain ⟨⟨⟩, w₁, hexpected, h⟩ := exec_bind_ok.mp h
  obtain ⟨⟨⟩, w₂, -, h⟩ := exec_bind_ok.mp h
  obtain ⟨latestDestination, w₃, hdestination, h⟩ := exec_bind_ok.mp h
  obtain ⟨latestSource, w₄, hsource, h⟩ := exec_bind_ok.mp h
  obtain ⟨same, w₅, -, h⟩ := exec_bind_ok.mp h
  obtain ⟨⟨⟩, w₆, -, h⟩ := exec_bind_ok.mp h
  obtain ⟨rfl, -⟩ := exec_pure_ok.mp h
  rw [entry_folders] at hexpected
  refine ⟨verifyExpectedFromParent_ok hexpected, ?_⟩
  rw [openParentChecked_ok hsource, openParentChecked_ok hdestination]

/-- The way from a source that is there to a destination that is free. -/
theorem moveFresh_run {atDestination : Location} {x : Except CoreError MoveContentOutcome}
    (h : exec (do
      let (latestSource, latestDestination) ← moveContentRecheck u blake3 faults source destination
        expected (locationOf (folders source)) atDestination
      mapError (mapAtomicMoveError source.asStr destination.asStr)
        (change faults (·.renameNoReplace (entry latestSource (nameOf source))
          (entry latestDestination (nameOf destination))))
      finishContentMove u blake3 faults source destination expected latestSource latestDestination)
      w = (x, w')) :
    ((∃ outcome, x = .ok outcome) ∧
        MovedFile blake3 faults expected w.disk w'.disk (pathOf source) (pathOf destination)) ∨
      ∃ e, x = .error e ∧ (w'.disk = w.disk ∨ e.isUnknown = true) := by
  rw [exec_bind] at h
  cases hcheck : exec (moveContentRecheck u blake3 faults source destination expected
      (locationOf (folders source)) atDestination) w with
  | mk y w₁ =>
      have hdisk := same_of_exec hcheck
      rw [hcheck] at h
      cases y with
      | error e =>
          cases h
          exact Or.inr ⟨e, rfl, Or.inl hdisk⟩
      | ok latest =>
          obtain ⟨hholds, rfl⟩ := moveContentRecheck_ok hcheck
          dsimp only at h
          rw [exec_bind, entry_folders, entry_folders] at h
          cases hrename : exec (mapError (mapAtomicMoveError source.asStr destination.asStr)
              (change faults (·.renameNoReplace (pathOf source) (pathOf destination)))) w₁ with
          | mk z w₂ =>
              rw [hrename] at h
              rcases rename_run hrename with ⟨rfl, hmoved, -⟩ | ⟨e, rfl, hsame⟩
              · dsimp only at h
                rw [hdisk, ← same_of_exec h] at hmoved
                cases x with
                | ok outcome => exact Or.inl ⟨⟨outcome, rfl⟩, Or.inl ⟨hholds, hmoved⟩⟩
                | error e =>
                    exact Or.inr ⟨e, rfl, Or.inr (hedged_finishContentMove.isUnknown_eq _ _ _ h)⟩
              · cases h
                exact Or.inr ⟨e, rfl, Or.inl (hsame.trans hdisk)⟩

theorem moveContentFile_run {x : Except CoreError MoveContentOutcome}
    (h : exec (moveContentFile u blake3 faults source destination expected .fresh) w = (x, w')) :
    ((∃ outcome, x = .ok outcome) ∧
        MovedFile blake3 faults expected w.disk w'.disk (pathOf source) (pathOf destination)) ∨
      ∃ e, x = .error e ∧ (w'.disk = w.disk ∨ e.isUnknown = true) := by
  rw [moveContentFile, exec_bind] at h
  cases hchecks : exec (moveContentChecks u faults source destination expected) w with
  | mk y w₁ =>
      have hdisk := same_of_exec hchecks
      rw [hchecks] at h
      cases y with
      | error e =>
          cases h
          exact Or.inr ⟨e, rfl, Or.inl hdisk⟩
      | ok found =>
          obtain ⟨atSource, atDestination, inSource, inDestination⟩ := found
          obtain ⟨rfl, rfl⟩ := moveContentChecks_ok hchecks
          cases inSource with
          | true =>
              cases inDestination with
              | true =>
                  cases h
                  exact Or.inr ⟨_, rfl, Or.inl hdisk⟩
              | false =>
                  rw [← hdisk]
                  exact moveFresh_run h
          | false =>
              cases inDestination with
              | true =>
                  cases x with
                  | ok outcome =>
                      obtain ⟨⟨⟩, w₂, hverify, h⟩ := exec_bind_ok.mp h
                      obtain ⟨rfl, rfl⟩ := exec_pure_ok.mp h
                      have hthere := verifyContentMoveTopology_ok hverify
                      rw [hdisk] at hthere
                      exact Or.inl ⟨⟨_, rfl⟩, Or.inr
                        ⟨hthere.1, (same_of_exec hverify).trans hdisk, hthere.2⟩⟩
                  | error e =>
                      refine Or.inr ⟨e, rfl, Or.inl ?_⟩
                      rcases exec_bind_error.mp h with h | ⟨⟨⟩, w₂, -, h⟩
                      · exact (same_of_exec h).trans hdisk
                      · exact nomatch h
              | false =>
                  cases h
                  exact Or.inr ⟨_, rfl, Or.inl hdisk⟩

theorem moveContentFile_ending {x : Except CoreError Unit}
    (h : exec (Call.run blake3 faults pid (.moveContentFile source destination expected)) w =
      (x, w')) :
    Ending blake3 faults pid (.moveContentFile source destination expected) w x w' := by
  rw [Call.run, exec_bind] at h
  cases hmove : exec (moveContentFile u blake3 faults source destination expected .fresh) w with
  | mk y w₁ =>
      rw [hmove] at h
      rcases moveContentFile_run hmove with ⟨⟨outcome, rfl⟩, hmoved⟩ | ⟨e, rfl, hsame | hunknown⟩
      · cases h
        exact .done hmoved not_slips_moveContentFile
      · cases h
        exact .unchanged (fun _ _ => by rw [hsame]) not_slips_moveContentFile
      · cases h
        exact .unknown hunknown not_slips_moveContentFile

end MoveContent

section CaseRename

variable {source destination temporary : VaultPath u} {expected : FileRevision}

theorem verifyCaseRenameEntry_ok {path : Location} {text : Text}
    (h : exec (verifyCaseRenameEntry blake3 faults path text expected) w = (.ok (), w')) :
    Holds blake3 w.disk path expected := by
  obtain ⟨⟨⟩, w₁, hexpected, -⟩ := exec_bind_ok.mp h
  exact verifyExpectedFromParent_ok hexpected

/-- Where the source is not reported, no name is the one of the source. -/
theorem caseRenameEntries_ok {names : List FileName} {state state' : CaseRenameState}
    (h : exec (caseRenameEntries u faults source destination temporary names state) w =
      (.ok state', w')) (hsource : state'.source = false) :
    state.source = false ∧ .utf8 (String.ofList (nameOf source)) ∉ names := by
  induction names generalizing w state with
  | nil =>
      obtain ⟨rfl, -⟩ := exec_pure_ok.mp h
      exact ⟨hsource, List.not_mem_nil⟩
  | cons name rest ih =>
      obtain ⟨⟨⟩, w₁, -, h⟩ := exec_bind_ok.mp h
      obtain ⟨existing, w₂, hname, h⟩ := exec_bind_ok.mp h
      obtain ⟨hname, rfl⟩ := exec_the_ok.mp hname
      have hgo : ∀ w₃ state₁, exec (caseRenameEntries u faults source destination temporary rest
          state₁) w₃ = (.ok state', w') →
          (state₁.source = false → state.source = false ∧ existing.toList ≠ nameOf source) →
          state.source = false ∧ .utf8 (String.ofList (nameOf source)) ∉ name :: rest := by
        intro w₃ state₁ h hstep
        obtain ⟨hfirst, hrest⟩ := ih h
        obtain ⟨hstate, hne⟩ := hstep hfirst
        refine ⟨hstate, fun hmem => ?_⟩
        rcases List.mem_cons.mp hmem with heq | hmem
        · rw [← heq] at hname
          cases hname
          exact hne String.toList_ofList
        · exact hrest hmem
      split at h
      · exact hgo _ _ h nofun
      · rename_i hne
        split at h
        · exact hgo _ _ h fun hfirst => ⟨hfirst, hne⟩
        · split at h
          · exact hgo _ _ h fun hfirst => ⟨hfirst, hne⟩
          · obtain ⟨⟨⟩, w₃, -, h⟩ := exec_bind_ok.mp h
            obtain ⟨⟨⟩, w₄, -, h⟩ := exec_bind_ok.mp h
            exact hgo _ _ h fun hfirst => ⟨hfirst, hne⟩

theorem isContent_of_requireContentPath {path : VaultPath u}
    (h : requireContentPath path = .ok ()) : IsContent u (pathOf path) := by
  rw [requireContentPath] at h
  split at h
  · rename_i hclass
    intro text htext
    rw [pathOf, locationOf, List.head?_map, Option.map_eq_some_iff] at htext
    obtain ⟨first, hfirst, heq⟩ := htext
    cases heq
    rw [classify, hfirst] at hclass
    rw [String.toList_ofList]
    exact hclass
  · cases h

theorem validateCaseRenamePaths_ok
    (h : validateCaseRenamePaths source destination temporary = .ok ()) :
    IsContent u (pathOf source) ∧ folders destination = folders source ∧
      folders temporary = folders source := by
  obtain ⟨⟨⟩, hcontent, h⟩ := Check.bind_eq_ok.mp h
  obtain ⟨⟨⟩, -, h⟩ := Check.bind_eq_ok.mp h
  obtain ⟨⟨⟩, -, h⟩ := Check.bind_eq_ok.mp h
  obtain ⟨⟨⟩, -, h⟩ := Check.bind_eq_ok.mp h
  obtain ⟨⟨⟩, hsame, -⟩ := Check.bind_eq_ok.mp h
  have hboth := not_not.mp (Check.reject_eq_ok.mp hsame)
  rw [sameParentPath, sameParentPath, beq_iff_eq, beq_iff_eq] at hboth
  exact ⟨isContent_of_requireContentPath hcontent, hboth.1.symm, hboth.2.symm⟩

/-- The three paths have one parent, and a source that is not reported is not there. -/
theorem caseRenameChecks_ok {parent : Location} {state : CaseRenameState}
    (h : exec (caseRenameChecks u faults source destination temporary expected) w =
      (.ok (parent, state), w')) :
    parent = locationOf (folders source) ∧ folders destination = folders source ∧
      folders temporary = folders source ∧ IsContent u (pathOf source) ∧
      (state.source = false → w.disk.tree.nodeAt (pathOf source) = none) := by
  obtain ⟨⟨⟩, w₁, hlift, h⟩ := exec_bind_ok.mp h
  obtain ⟨hvalid, rfl⟩ := exec_lift_ok.mp hlift
  obtain ⟨⟨⟩, w₂, hrevision, h⟩ := exec_bind_ok.mp h
  obtain ⟨⟨⟩, w₃, hlength, h⟩ := exec_bind_ok.mp h
  obtain ⟨first, w₄, hsource, h⟩ := exec_bind_ok.mp h
  obtain ⟨second, w₅, hdestination, h⟩ := exec_bind_ok.mp h
  obtain ⟨third, w₆, htemporary, h⟩ := exec_bind_ok.mp h
  obtain ⟨same, w₇, hsame, h⟩ := exec_bind_ok.mp h
  obtain ⟨⟨⟩, w₈, hrequire, h⟩ := exec_bind_ok.mp h
  obtain ⟨⟨⟩, w₉, hsync, h⟩ := exec_bind_ok.mp h
  obtain ⟨found, w₁₀, hstate, h⟩ := exec_bind_ok.mp h
  cases h
  obtain rfl := openParentChecked_ok hsource
  have hdisk : w₉.disk = w.disk := by
    rw [same_of_exec hsync, same_of_exec hrequire, same_of_exec hsame, same_of_exec htemporary,
      same_of_exec hdestination, same_of_exec hsource, same_of_exec hlength,
      same_of_exec hrevision]
  obtain ⟨hcontent, hfolders, hfolders'⟩ := validateCaseRenamePaths_ok hvalid
  refine ⟨rfl, hfolders, hfolders', hcontent, fun hfalse => ?_⟩
  obtain ⟨names, w₁₁, hnames, hentries⟩ := exec_bind_ok.mp hstate
  have hnot := (caseRenameEntries_ok hentries hfalse).2
  have hchildren := (exec_look_ok (exec_mapError_ok.mp hnames)).1
  cases hchildren
  rw [← hdisk, ← entry_folders, FileTree.nodeAt_eq_none_iff]
  intro node hnode
  exact hnot (List.mem_map.mpr ⟨(_, node), FileTree.mem_children.mpr hnode, rfl⟩)

/-- Two renames, over a name that was free, are one. -/
theorem Relocated.trans {d d₁ d₂ : Disk} {start middle stop : Location}
    (h : Relocated d d₁ start middle) (h' : Relocated d₁ d₂ middle stop)
    (hfree : d.tree.nodeAt middle = none) (hne : middle ≠ []) : Relocated d d₂ start stop := by
  refine ⟨h.1, fun location => ?_⟩
  rw [h'.2]
  split
  · rw [h.2, if_pos (List.prefix_append _ _), List.drop_left]
  · by_cases hmiddle : middle <+: location
    · have hnone : d.tree.nodeAt location = none := by
        obtain ⟨rest, rfl⟩ := hmiddle
        by_cases hrest : rest = []
        · rwa [hrest, List.append_nil]
        · refine FileTree.nodeAt_below hne ?_ hrest
          rw [hfree]
          exact nofun
      rw [if_pos hmiddle, hnone, ite_self]
    · rw [if_neg hmiddle, h.2, if_neg hmiddle]

/-- After a move to a free path nothing stands at the source. -/
theorem Relocated.nodeAt_source {d d' : Disk} {start stop : Location}
    (h : Relocated d d' start stop) (hfree : d.tree.nodeAt stop = none) (hne : stop ≠ []) :
    d'.tree.nodeAt start = none := by
  rw [h.2, if_neg, if_pos List.prefix_rfl]
  rintro ⟨rest, rfl⟩
  refine h.1 ?_
  by_cases hrest : rest = []
  · rwa [hrest, List.append_nil]
  · refine FileTree.nodeAt_below hne ?_ hrest
    rw [hfree]
    exact nofun

theorem pathOf_ne_nil (path : VaultPath u) : pathOf path ≠ [] := by
  rw [pathOf, locationOf, Ne, List.map_eq_nil_iff]
  exact path.fits.1

theorem entry_of_folders {path : VaultPath u} (h : folders path = folders source) :
    entry (locationOf (folders source)) (nameOf path) = pathOf path := by
  rw [← h, entry_folders]

theorem renameToTemporary_run (hfolders : folders temporary = folders source)
    {x : Except CoreError Unit}
    (h : exec (renameToTemporary u blake3 faults (locationOf (folders source)) source destination
      temporary expected) w = (x, w')) :
    (x = .ok () ∧ Holds blake3 w.disk (pathOf source) expected ∧
        Relocated w.disk w'.disk (pathOf source) (pathOf temporary) ∧
        w.disk.tree.nodeAt (pathOf temporary) = none) ∨
      ∃ e, x = .error e ∧ (w'.disk = w.disk ∨ e.isUnknown = true) := by
  cases x with
  | ok _ =>
      obtain ⟨⟨⟩, w₁, hverify, h⟩ := exec_bind_ok.mp h
      obtain ⟨latest, w₂, hlatest, h⟩ := exec_bind_ok.mp h
      obtain ⟨same, w₃, hsame, h⟩ := exec_bind_ok.mp h
      obtain ⟨⟨⟩, w₄, hrequire, h⟩ := exec_bind_ok.mp h
      obtain ⟨⟨⟩, w₅, hrename, hsync⟩ := exec_bind_ok.mp h
      have hdisk : w₄.disk = w.disk := by
        rw [same_of_exec hrequire, same_of_exec hsame, same_of_exec hlatest,
          same_of_exec hverify]
      rw [entry_folders] at hverify
      rw [openParentChecked_ok hlatest, entry_folders, entry_of_folders hfolders] at hrename
      rcases rename_run hrename with ⟨-, hmoved, hfree⟩ | ⟨e, he, -⟩
      · rw [hdisk, ← same_of_exec hsync] at hmoved
        rw [hdisk] at hfree
        exact Or.inl ⟨rfl, verifyCaseRenameEntry_ok hverify, hmoved, hfree⟩
      · exact nomatch he
  | error e =>
      refine Or.inr ⟨e, rfl, ?_⟩
      rcases exec_bind_error.mp h with h | ⟨⟨⟩, w₁, hverify, h⟩
      · exact Or.inl (same_of_exec h)
      rcases exec_bind_error.mp h with h | ⟨latest, w₂, hlatest, h⟩
      · exact Or.inl ((same_of_exec h).trans (same_of_exec hverify))
      rcases exec_bind_error.mp h with h | ⟨same, w₃, hsame, h⟩
      · exact Or.inl (by rw [same_of_exec h, same_of_exec hlatest, same_of_exec hverify])
      have hdisk : w₃.disk = w.disk := by
        rw [same_of_exec hsame, same_of_exec hlatest, same_of_exec hverify]
      rcases exec_bind_error.mp h with h | ⟨⟨⟩, w₄, hrequire, h⟩
      · exact Or.inl ((same_of_exec h).trans hdisk)
      rcases exec_bind_error.mp h with h | ⟨⟨⟩, w₅, hrename, hsync⟩
      · rcases rename_run h with ⟨hok, -⟩ | ⟨e', -, hsame₄⟩
        · exact nomatch hok
        · exact Or.inl ((hsame₄.trans (same_of_exec hrequire)).trans hdisk)
      · exact Or.inr (hedged_syncCaseRenamePhase.isUnknown_eq _ _ _ hsync)

theorem isUnknown_mapAtomicMoveError {start stop : Text} (kind : IoKind) :
    (mapAtomicMoveError start stop kind).isUnknown = false := by
  cases kind <;> rfl

instance plain_renameToDestination {parent : Location} :
    Plain (renameToDestination u faults parent source destination temporary) :=
  Reports.bind_of inferInstance fun _ => Reports.bind_of inferInstance fun _ =>
    Reports.bind_of (Reports.require rfl) fun _ =>
    Reports.bind_of (Reports.mapError isUnknown_mapAtomicMoveError) fun _ => Reports.pure

theorem renameToDestination_run (hdestination : folders destination = folders source)
    (htemporary : folders temporary = folders source) {parent : Location}
    {x : Except CoreError Location}
    (h : exec (renameToDestination u faults parent source destination temporary) w = (x, w')) :
    ((∃ latest, x = .ok latest) ∧
        Relocated w.disk w'.disk (pathOf temporary) (pathOf destination)) ∨
      ∃ e, x = .error e ∧ w'.disk = w.disk := by
  cases x with
  | ok latest =>
      obtain ⟨found, w₁, hlatest, h⟩ := exec_bind_ok.mp h
      obtain ⟨same, w₂, hsame, h⟩ := exec_bind_ok.mp h
      obtain ⟨⟨⟩, w₃, hrequire, h⟩ := exec_bind_ok.mp h
      obtain ⟨⟨⟩, w₄, hrename, h⟩ := exec_bind_ok.mp h
      obtain ⟨rfl, rfl⟩ := exec_pure_ok.mp h
      have hdisk : w₃.disk = w.disk := by
        rw [same_of_exec hrequire, same_of_exec hsame, same_of_exec hlatest]
      rw [openParentChecked_ok hlatest, entry_folders, hdestination,
        entry_of_folders htemporary] at hrename
      rcases rename_run hrename with ⟨-, hmoved, -⟩ | ⟨e, he, -⟩
      · rw [hdisk] at hmoved
        exact Or.inl ⟨⟨_, rfl⟩, hmoved⟩
      · exact nomatch he
  | error e =>
      refine Or.inr ⟨e, rfl, ?_⟩
      rcases exec_bind_error.mp h with h | ⟨latest, w₁, hlatest, h⟩
      · exact same_of_exec h
      rcases exec_bind_error.mp h with h | ⟨same, w₂, hsame, h⟩
      · exact (same_of_exec h).trans (same_of_exec hlatest)
      have hdisk : w₂.disk = w.disk := (same_of_exec hsame).trans (same_of_exec hlatest)
      rcases exec_bind_error.mp h with h | ⟨⟨⟩, w₃, hrequire, h⟩
      · exact (same_of_exec h).trans hdisk
      rcases exec_bind_error.mp h with h | ⟨⟨⟩, w₄, hrename, h⟩
      · rcases rename_run h with ⟨hok, -⟩ | ⟨e', -, hsame₃⟩
        · exact nomatch hok
        · exact (hsame₃.trans (same_of_exec hrequire)).trans hdisk
      · exact nomatch h

theorem slips_caseRename_iff {parent : Location} {w₁ : World} {state : CaseRenameState}
    (hchecks : exec (caseRenameChecks u faults source destination temporary expected) w =
      (.ok (parent, state), w₁)) :
    Slips blake3 faults pid w (.caseRenameContentFile source destination temporary expected) ↔
      state = ⟨true, false, false⟩ ∧ ∃ w₂ e w₃,
        exec (renameToTemporary u blake3 faults parent source destination temporary expected) w₁ =
            (.ok (), w₂) ∧
          exec (renameToDestination u faults parent source destination temporary) w₂ =
            (.error e, w₃) := by
  constructor
  · rintro ⟨parent', w₁', w₂, e, w₃, hchecks', hrest⟩
    obtain ⟨hfound, rfl⟩ := Prod.mk.inj (hchecks.symm.trans hchecks')
    cases hfound
    exact ⟨rfl, w₂, e, w₃, hrest⟩
  · rintro ⟨rfl, w₂, e, w₃, hrest⟩
    exact ⟨parent, w₁, w₂, e, w₃, hchecks, hrest⟩

/-- The two renames from a source that is there. -/
theorem caseRenameFresh_ending {w₁ : World} {y : Except CoreError CaseRenameOutcome}
    (hchecks : exec (caseRenameChecks u faults source destination temporary expected) w =
      (.ok (locationOf (folders source), ⟨true, false, false⟩), w₁))
    (h : exec (do
      renameToTemporary u blake3 faults (locationOf (folders source)) source destination temporary
        expected
      let latest ← renameToDestination u faults (locationOf (folders source)) source destination
        temporary
      syncCaseRenamePhase u blake3 faults latest source destination temporary expected
        .temporaryToDestination
      pure CaseRenameOutcome.renamed) w₁ = (y, w')) :
    Ending blake3 faults pid (.caseRenameContentFile source destination temporary expected) w
      (y.map fun _ => ()) w' := by
  obtain ⟨-, hdestination, htemporary, hcontent, -⟩ := caseRenameChecks_ok hchecks
  have hdisk := same_of_exec hchecks
  have hslips : Slips blake3 faults pid w
      (.caseRenameContentFile source destination temporary expected) ↔ _ :=
    slips_caseRename_iff hchecks
  rw [exec_bind] at h
  cases hfirst : exec (renameToTemporary u blake3 faults (locationOf (folders source)) source
      destination temporary expected) w₁ with
  | mk z w₂ =>
      rw [hfirst] at h
      rcases renameToTemporary_run htemporary hfirst with ⟨rfl, hholds, hmoved, hfree⟩ |
        ⟨e, rfl, hending⟩
      · dsimp only at h
        rw [hdisk] at hholds hmoved hfree
        rw [exec_bind] at h
        cases hsecond : exec (renameToDestination u faults (locationOf (folders source)) source
            destination temporary) w₂ with
        | mk v w₃ =>
            rw [hsecond] at h
            rcases renameToDestination_run hdestination htemporary hsecond with
              ⟨⟨latest, rfl⟩, hmoved'⟩ | ⟨e, rfl, hsame⟩
            · have hno : ¬ Slips blake3 faults pid w
                  (.caseRenameContentFile source destination temporary expected) := by
                intro hslip
                obtain ⟨-, w₂', e, w₃', hfirst', hsecond'⟩ := hslips.mp hslip
                obtain ⟨-, rfl⟩ := Prod.mk.inj (hfirst.symm.trans hfirst')
                rw [hsecond] at hsecond'
                exact nomatch hsecond'
              have hboth := hmoved.trans hmoved' hfree (pathOf_ne_nil _)
              cases y with
              | ok outcome =>
                  obtain ⟨⟨⟩, w₄, hsync, h⟩ := exec_bind_ok.mp h
                  obtain ⟨-, rfl⟩ := exec_pure_ok.mp h
                  rw [← same_of_exec hsync] at hboth
                  exact .done (Or.inl ⟨hholds, hboth⟩) hno
              | error e =>
                  rcases exec_bind_error.mp h with h | ⟨⟨⟩, w₄, -, h⟩
                  · exact .unknown (hedged_syncCaseRenamePhase.isUnknown_eq _ _ _ h) hno
                  · exact nomatch h
            · cases h
              refine .slipped (plain_renameToDestination.isUnknown_eq _ _ _ hsecond) hcontent ?_
                (hslips.mpr ⟨rfl, w₂, e, w', hfirst, hsecond⟩)
              obtain ⟨bytes, hbytes, -⟩ := hholds
              rw [hbytes, hsame,
                bytesAt_of_free (hmoved.nodeAt_source hfree (pathOf_ne_nil _))]
              exact nofun
      · cases h
        have hno : ¬ Slips blake3 faults pid w
            (.caseRenameContentFile source destination temporary expected) := by
          intro hslip
          obtain ⟨-, w₂', e, w₃', hfirst', -⟩ := hslips.mp hslip
          rw [hfirst] at hfirst'
          exact nomatch hfirst'
        rcases hending with hsame | hunknown
        · exact .unchanged (fun _ _ => by rw [hsame, hdisk]) hno
        · exact .unknown hunknown hno

theorem caseRenameContentFile_ending {y : Except CoreError CaseRenameOutcome}
    (h : exec (caseRenameContentFile u blake3 faults source destination temporary expected .fresh)
      w = (y, w')) :
    Ending blake3 faults pid (.caseRenameContentFile source destination temporary expected) w
      (y.map fun _ => ()) w' := by
  rw [caseRenameContentFile, exec_bind] at h
  cases hchecks : exec (caseRenameChecks u faults source destination temporary expected) w with
  | mk z w₁ =>
      have hdisk := same_of_exec hchecks
      rw [hchecks] at h
      cases z with
      | error e =>
          cases h
          refine .unchanged (fun _ _ => by rw [hdisk]) ?_
          rintro ⟨parent, w₁', w₂, e, w₃, hchecks', -⟩
          rw [hchecks] at hchecks'
          exact nomatch hchecks'
      | ok found =>
          obtain ⟨parent, state⟩ := found
          obtain ⟨rfl, hdestination, -, -, habsent⟩ := caseRenameChecks_ok hchecks
          by_cases hfresh : state = ⟨true, false, false⟩
          · subst hfresh
            exact caseRenameFresh_ending hchecks h
          · have hno : ¬ Slips blake3 faults pid w
                (.caseRenameContentFile source destination temporary expected) :=
              fun hslip => hfresh ((slips_caseRename_iff hchecks).mp hslip).1
            by_cases hthere : state = ⟨false, false, true⟩
            · subst hthere
              cases y with
              | ok outcome =>
                  obtain ⟨⟨⟩, w₂, hverify, h⟩ := exec_bind_ok.mp h
                  obtain ⟨-, rfl⟩ := exec_pure_ok.mp h
                  rw [entry_of_folders hdestination] at hverify
                  have hholds := verifyCaseRenameEntry_ok hverify
                  rw [hdisk] at hholds
                  exact .done (Or.inr ⟨hholds, (same_of_exec hverify).trans hdisk,
                    fun _ => habsent rfl⟩) hno
              | error e =>
                  rcases exec_bind_error.mp h with h | ⟨⟨⟩, w₂, -, h⟩
                  · exact .unchanged (fun _ _ => by rw [same_of_exec h, hdisk]) hno
                  · exact nomatch h
            · -- every other topology is refused
              obtain ⟨inSource, inTemporary, inDestination⟩ := state
              cases inSource <;> cases inTemporary <;> cases inDestination <;>
                first
                | exact absurd rfl hfresh
                | exact absurd rfl hthere
                | (cases h; exact .unchanged (fun _ _ => by rw [hdisk]) hno)

end CaseRename

end Stepwise
end Vault
end MyVault
