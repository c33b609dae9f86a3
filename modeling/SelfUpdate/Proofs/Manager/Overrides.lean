import SelfUpdate.Proofs.Manager.Persistence
import SelfUpdate.Proofs.Text.Trim

/-!
# Where a manager looks for updates

An address that is chosen instead of the usual one is trimmed, and a blank one stands for none. The
address in a policy file is taken as it is, so a blank one there hides the usual address until another
is chosen.
-/

namespace SelfUpdate.Manager

variable {manager : Manager} {world : World} {path : Path} {loaded policy : Policy} {edit : Edit}
  {changes : List (Edit × Bool)} {wish url : Option String} {ledger next : Ledger}

/-- An address that may be chosen instead of the usual one: it is not empty, and it neither begins nor
ends with a blank. -/
def Proper (override : Option String) : Prop :=
  ∀ url, override = some url → url ≠ "" ∧ Text.Trimmed url.toList

theorem customUrl?_proper (wish : Option String) : Proper (customUrl? wish) := by
  intro url chosen
  obtain ⟨trimmed, filled⟩ := Option.filter_eq_some_iff.mp chosen
  obtain ⟨text, -, rfl⟩ := Option.map_eq_some_iff.mp trimmed
  refine ⟨fun empty => ?_, Text.trimmed_trim text⟩
  simp [empty] at filled

/-- Nothing and blank texts stand for the usual address. -/
theorem customUrl?_eq_none_iff :
    customUrl? wish = none ↔ ∀ text, wish = some text → Text.isAllBlank text = true := by
  cases wish with
  | none => simp [customUrl?]
  | some text => simp [customUrl?, Text.isAllBlank_iff]

/-! ## The last choice -/

/-- The address that a change puts in place of the usual one. -/
def Edit.url? : Edit → Option (Option String)
  | customUrl url => some url
  | _ => none

/-- The address that was chosen last. -/
def lastChosen (changes : List (Edit × Bool)) : Option (Option String) :=
  (changes.filterMap fun change => change.1.url?).getLast?

theorem lastChosen_concat (changes : List (Edit × Bool)) (change : Edit × Bool) :
    lastChosen (changes ++ [change]) = change.1.url?.or (lastChosen changes) := by
  rw [lastChosen, lastChosen, List.filterMap_append, List.getLast?_append]
  cases h : change.1.url? <;> simp [h]

theorem mem_of_lastChosen (chosen : lastChosen changes = some url) :
    ∃ change ∈ changes, change.1.url? = some url :=
  List.mem_filterMap.mp (List.mem_of_getLast? chosen)

theorem apply_customUrl (edit : Edit) (policy : Policy) :
    (edit.apply policy).customUrl = edit.url?.getD policy.customUrl := by
  cases edit <;> rfl

theorem remembered_customUrl (loaded : Policy) (changes : List (Edit × Bool)) :
    (remembered loaded changes).customUrl = (lastChosen changes).getD loaded.customUrl := by
  induction changes using List.reverseRecOn with
  | nil => rfl
  | append_singleton changes change ih =>
      rw [remembered_concat, apply_customUrl, lastChosen_concat, ih]
      cases change.1.url? <;> rfl

/-- Something was saved when a change was. -/
theorem exists_lastSaved (loaded : Policy) (saved : (edit, true) ∈ changes) :
    ∃ policy, LastSaved loaded changes policy := by
  induction changes using List.reverseRecOn with
  | nil => cases saved
  | append_singleton changes change ih =>
      obtain ⟨last, kept⟩ := change
      cases kept with
      | true => exact ⟨_, lastSaved_concat_true.mpr rfl⟩
      | false =>
          obtain ⟨policy, earlier⟩ := ih (by simpa using saved)
          exact ⟨policy, lastSaved_concat_false.mpr earlier⟩

section

variable {before after : List (Edit × Bool)} {saved : Bool}

theorem lastChosen_middle (others : ∀ change ∈ after, change.1.url? = none) :
    lastChosen (before ++ (.customUrl url, saved) :: after) = some url := by
  induction after using List.reverseRecOn with
  | nil => exact lastChosen_concat before _
  | append_singleton after change ih =>
      rw [← List.cons_append, ← List.append_assoc, lastChosen_concat, others change (by simp)]
      exact ih fun other listed => others other (by simp [listed])

/-- A choice that was saved is in the file until there is another choice. -/
theorem lastSaved_customUrl (others : ∀ change ∈ after, change.1.url? = none)
    (last : LastSaved loaded (before ++ (.customUrl url, true) :: after) policy) :
    policy.customUrl = url := by
  have whole {after : List (Edit × Bool)} (others : ∀ change ∈ after, change.1.url? = none) :
      (remembered loaded (before ++ (.customUrl url, true) :: after)).customUrl = url := by
    rw [remembered_customUrl, lastChosen_middle others]
    rfl
  -- from the back: a change that was saved saved the choice with it, one that was not changed no file
  induction after using List.reverseRecOn with
  | nil => exact (lastSaved_concat_true.mp last) ▸ whole nofun
  | append_singleton after change ih =>
      obtain ⟨edit, kept⟩ := change
      cases kept with
      | true =>
          rw [← List.cons_append, ← List.append_assoc, lastSaved_concat_true] at last
          rw [last, List.append_assoc, List.cons_append]
          exact whole others
      | false =>
          rw [← List.cons_append, ← List.append_assoc, lastSaved_concat_false] at last
          exact ih (fun other listed => others other (by simp [listed])) last

end

/-! ## Every ledger -/

/-- What can happen to a manager that keeps its settings. The workers and others may do anything but
change the policy in memory. -/
inductive Alters : Ledger → Ledger → Prop where
  | call {ledger : Ledger} (call : Call) : Alters ledger (ledger.begin call)
  | meanwhile {ledger : Ledger} {manager : Manager} {world : World}
      (settings : manager.settings = ledger.manager.settings)
      (policy : manager.policy = ledger.manager.policy) :
      Alters ledger { ledger with manager := manager, world := world }

abbrev Altered : Ledger → Ledger → Prop := Relation.ReflTransGen Alters

/-- A call leaves the settings as they are. -/
theorem begin_settings (call : Call) (manager : Manager) (world : World) :
    (call.begin manager world).1.2.settings = manager.settings := by
  obtain ⟨policy, store, begun⟩ := begin_eq call manager world
  rw [begun]

/-- What a call chooses was trimmed. -/
theorem Call.edit?_proper {call : Call} {clock : Int64} (edits : call.edit? manager clock = some edit)
    (chosen : edit.url? = some url) : Proper url := by
  cases call with
  | chooseUrl wish =>
      cases edits
      cases chosen
      exact customUrl?_proper wish
  | checkIfDue =>
      rw [Call.edit?] at edits
      split at edits
      · cases edits
        cases chosen
      · cases edits
  | check | dismiss | clearDismissal | enableAutoCheck =>
      cases edits
      cases chosen
  | download | cleanUp | install | shutDown => cases edits

/-- The settings are those of the start, the policy in memory has all changes, and all addresses that
were chosen were trimmed. -/
structure Ledger.Steady (settings : Settings) (loaded : Policy) (ledger : Ledger) : Prop where
  settings : ledger.manager.settings = settings
  memory : ledger.manager.policy = remembered loaded ledger.changes
  proper : ∀ change ∈ ledger.changes, ∀ url, change.1.url? = some url → Proper url

theorem Alters.steady {settings : Settings} (alters : Alters ledger next)
    (steady : ledger.Steady settings loaded) : next.Steady settings loaded := by
  obtain ⟨same, memory, proper⟩ := steady
  cases alters with
  | meanwhile settings policy => exact ⟨settings.trans same, policy.trans memory, proper⟩
  | call call =>
      have policy : (ledger.begin call).manager.policy = _ :=
        begin_policy call ledger.manager ledger.world
      have changes : (ledger.begin call).changes = ledger.changes ++ _ := rfl
      refine ⟨(begin_settings call _ _).trans same, ?_, ?_⟩
      · rw [policy, changes, memory]
        rw [Ledger.edit?]
        cases call.edit? ledger.manager ledger.world.clock with
        | none => simp
        | some edit => simp
      · intro change listed url chosen
        rw [changes] at listed
        rcases List.mem_append.mp listed with earlier | last
        · exact proper change earlier url chosen
        · obtain ⟨edit, edits, rfl⟩ := Option.map_eq_some_iff.mp (Option.mem_toList.mp last)
          exact Call.edit?_proper edits chosen

theorem Altered.steady {settings : Settings} (altered : Altered ledger next)
    (steady : ledger.Steady settings loaded) : next.Steady settings loaded := by
  induction altered with
  | refl => exact steady
  | tail _ alters ih => exact alters.steady ih

/-! ## The address -/

/-- Where a manager looks for updates that was started with a policy. -/
structure Ledger.Looks (settings : Settings) (loaded : Policy) (ledger : Ledger) : Prop where
  /-- Memory has the address that was chosen last, or else the one that was loaded. -/
  override : ledger.manager.policy.customUrl =
    (lastChosen ledger.changes).getD loaded.customUrl
  /-- An address that was chosen is trimmed. -/
  chosen : ∀ url, lastChosen ledger.changes = some url → Proper url
  /-- So the address is trimmed once another was chosen, and until then only if the loaded one is. -/
  proper_iff : Proper ledger.manager.policy.customUrl ↔
    lastChosen ledger.changes ≠ none ∨ Proper loaded.customUrl
  /-- Then it is the usual one or one that is not blank. -/
  effective : Proper ledger.manager.policy.customUrl →
    ledger.manager.policy.customUrl = none ∧ ledger.manager.effectiveUrl = settings.checkUrl ∨
      ledger.manager.policy.customUrl = some ledger.manager.effectiveUrl ∧
        Text.isAllBlank ledger.manager.effectiveUrl = false
  /-- Choosing nothing or a blank text brings the usual one back. -/
  restores : ∀ wish, (∀ text, wish = some text → Text.isAllBlank text = true) →
    (ledger.begin (.chooseUrl wish)).manager.effectiveUrl = settings.checkUrl

theorem Ledger.Steady.looks {settings : Settings} (steady : ledger.Steady settings loaded) :
    ledger.Looks settings loaded := by
  obtain ⟨same, memory, proper⟩ := steady
  have override : ledger.manager.policy.customUrl =
      (lastChosen ledger.changes).getD loaded.customUrl := by
    rw [memory, remembered_customUrl]
  have chosen (url : Option String) (last : lastChosen ledger.changes = some url) : Proper url := by
    obtain ⟨change, listed, chosen⟩ := mem_of_lastChosen last
    exact proper change listed url chosen
  refine ⟨override, chosen, ?_, fun proper => ?_, fun wish blank => ?_⟩
  · rw [override]
    cases last : lastChosen ledger.changes with
    | none => simp
    | some url => simp [chosen url last]
  · rw [effectiveUrl, same]
    cases custom : ledger.manager.policy.customUrl with
    | none => exact .inl ⟨rfl, rfl⟩
    | some url =>
        obtain ⟨filled, trimmed⟩ := proper url custom
        exact .inr ⟨rfl, Text.isAllBlank_of_trimmed trimmed filled⟩
  · have policy : (ledger.begin (.chooseUrl wish)).manager.policy = _ :=
      begin_policy (.chooseUrl wish) ledger.manager ledger.world
    have settings : (ledger.begin (.chooseUrl wish)).manager.settings = _ :=
      begin_settings (.chooseUrl wish) ledger.manager ledger.world
    rw [effectiveUrl, policy, settings, same]
    change (customUrl? wish).getD _ = _
    rw [customUrl?_eq_none_iff.mpr blank]
    rfl

/-! ## Starting again -/

section

variable {runtime : Bool} {current : UInt32} {settings : Settings} {directory : Path}
  {store : PolicyStore} {later : World}

/-- A policy file that is missing or cannot be understood stands for the default policy. -/
theorem loadFile_eq_ok (loads : ((PolicyStore.file path).load world).1 = .ok policy) :
    policy = .default ∨ policy.IsStored world.disk path := by
  rw [PolicyStore.load, PolicyStore.loadFile] at loads
  simp only [Stateful.bind_run, Stateful.get_run] at loads
  cases read : world.disk.readText path with
  | error error =>
      rw [read] at loads
      cases error <;> cases loads
      exact .inl rfl
  | ok text =>
      rw [read] at loads
      cases parsed : Policy.parse text with
      | error error =>
          simp only [parsed] at loads
          cases loads
          exact .inl rfl
      | ok stored =>
          simp only [parsed] at loads
          cases loads
          exact .inr (.of_readText read parsed)

theorem steady_opening
    (started : start runtime current settings directory store world = (.ok manager, later)) :
    (Ledger.opening manager later).Steady settings manager.policy := by
  obtain ⟨policy, rfl⟩ := start_eq_ok started
  exact ⟨rfl, rfl, nofun⟩

/-- From whatever policy a manager starts and whatever it is asked for, the address in memory is the one
that was chosen last, trimmed and not blank, or else the one that was loaded as it is. A choice that was
saved in a file is still in force when a manager is started on that file, until there is another. -/
theorem overrides_trimmed
    (started : start runtime current settings directory store world = (.ok manager, later))
    (altered : Altered (.opening manager later) ledger) :
    ledger.Looks settings manager.policy ∧
      ∀ path, store = .file path →
        (manager.policy = .default ∨
          manager.policy.IsStored (Effect.preparePrivateDirectory directory world).2.disk path) ∧
        (world.disk.IsTree → Continued path (.opening manager later) ledger →
          ∀ before url after, ledger.changes = before ++ (.customUrl url, true) :: after →
            (∀ change ∈ after, change.1.url? = none) →
            PreparesAside path directory ledger.world →
            (Disk.makePrivateDirectory directory ledger.world.disk).1 = .ok () →
            ∀ build, ∃ fresh ready,
              start true build settings directory (.file path) ledger.world = (.ok fresh, ready) ∧
                fresh.effectiveUrl = ledger.manager.effectiveUrl) := by
  have steady := altered.steady (steady_opening started)
  refine ⟨steady.looks, ?_⟩
  rintro path rfl
  refine ⟨loadFile_eq_ok (start_policy_of_store started).2.1, ?_⟩
  intro tree continued before url after split others aside prepared build
  have agrees := (continued.sound (start_sound tree started)).agrees
  obtain ⟨policy, last⟩ := exists_lastSaved manager.policy
    (show (.customUrl url, true) ∈ ledger.changes by simp [split])
  obtain ⟨fresh, ready, again⟩ := agrees.restarts policy last build settings directory aside prepared
  refine ⟨fresh, ready, again, ?_⟩
  have restarted := agrees.restarted policy last _ _ _ _ _ _ aside again
  obtain ⟨kept, rfl⟩ := start_eq_ok again
  rw [split] at last
  have same : ledger.manager.policy.customUrl = url := by
    rw [steady.looks.override, split, lastChosen_middle others]
    rfl
  have stored : kept.customUrl = url := (congrArg Policy.customUrl restarted).trans
    (lastSaved_customUrl others last)
  rw [effectiveUrl, effectiveUrl, same, steady.settings, stored]

end

/-! ## Addresses with blanks -/

/-- A manager without a policy file. -/
def unmirrored : Ledger :=
  .opening (usualAt "policy.json") (Transfer.worldOf privateDisk Transfer.oneChunk)

/-- The manager once an address with blanks around it was chosen. -/
def mirrored : Ledger := unmirrored.begin (.chooseUrl (some " https://m "))

theorem unmirrored_disk (call : Call) : (unmirrored.eve call).disk = privateDisk :=
  eve_disk (rfl : (Transfer.worldOf privateDisk Transfer.oneChunk).Quiet) call

theorem mirrored_continued : Continued "policy.json" unmirrored mirrored := by
  refine .single (.call _ (fun _ => ?_) (Ledger.aside_of_quiet rfl rfl _))
  rw [unmirrored_disk]
  exact privateDisk_linkFree.straight_prepared _

theorem mirrored_disk : ∃ bytes, mirrored.world.disk = storedDisk bytes := by
  have same : unmirrored.world.disk = privateDisk := rfl
  rw [mirrored, Ledger.begin_disk rfl rfl, saved_disk rfl, same, replaceFile_privateDisk]
  exact ⟨_, rfl⟩

theorem customUrl?_mirror : customUrl? (some " https://m ") = some "https://m" := by
  decide +kernel

theorem mirrored_changes : mirrored.changes = [(.customUrl (some "https://m"), true)] := by
  have changes : mirrored.changes = [(.customUrl (customUrl? (some " https://m ")),
      unmirrored.manager.saves (unmirrored.eve (.chooseUrl (some " https://m ")))
        (.customUrl (customUrl? (some " https://m "))))] := rfl
  rw [changes, saves_eq rfl, unmirrored_disk, replaceFile_privateDisk, customUrl?_mirror]
  rfl

/-- The choice is in force without its blanks, and still is when the manager is started again. -/
theorem overrides_trimmed_mirrored :
    start true 1 .default "updates" (.file "policy.json") unmirrored.world =
        (.ok (usualAt "policy.json"), unmirrored.world) ∧
      Altered unmirrored mirrored ∧ mirrored.Looks .default (usualAt "policy.json").policy ∧
      mirrored.manager.effectiveUrl = "https://m" ∧
      ∃ fresh ready,
        start true 1 .default "updates" (.file "policy.json") mirrored.world = (.ok fresh, ready) ∧
          fresh.effectiveUrl = "https://m" := by
  have started := start_usualAt privateDisk_prepared privateDisk_missing Transfer.oneChunk
  have altered : Altered unmirrored mirrored := .single (.call _)
  obtain ⟨looks, again⟩ := overrides_trimmed started altered
  have custom := looks.override
  rw [mirrored_changes] at custom
  have effective : mirrored.manager.effectiveUrl = "https://m" := by
    rw [effectiveUrl, custom]
    rfl
  have prepared : (Disk.makePrivateDirectory "updates" mirrored.world.disk).1 = .ok () := by
    obtain ⟨bytes, disk⟩ := mirrored_disk
    rw [disk, storedDisk_prepared]
  obtain ⟨fresh, ready, restarted, same⟩ := (again "policy.json" rfl).2 privateDisk_isTree
    mirrored_continued [] _ [] mirrored_changes nofun (.of_quiet rfl) prepared 1
  exact ⟨started, altered, looks, effective, fresh, ready, restarted, same.trans effective⟩

/-- A policy in which the address is blank. -/
def blankPolicy : Policy := { Policy.default with customUrl := some "  " }

theorem blankPolicy_isStored :
    blankPolicy.IsStored (storedDisk (Text.encode blankPolicy.fileText)) "policy.json" := by
  have replaced := replaceFile_privateDisk (Text.encode blankPolicy.fileText)
  have read := Disk.readFile_replaceFile privateDisk_isTree
    (privateDisk_linkFree.straight_prepared "policy.json") (congrArg Prod.fst replaced)
  rw [replaced] at read
  exact .of_read read

/-- A blank address in the policy file hides the usual one. -/
theorem blank_override_hides :
    let disk := storedDisk (Text.encode blankPolicy.fileText)
    blankPolicy.IsStored disk "policy.json" ∧ ∃ manager later,
      start true 1 .default "updates" (.file "policy.json")
          (Transfer.worldOf disk Transfer.oneChunk) = (.ok manager, later) ∧
        manager.policy.customUrl = some "  " ∧ ¬ Proper manager.policy.customUrl ∧
        manager.effectiveUrl ≠ Settings.default.checkUrl ∧
        Text.isAllBlank manager.effectiveUrl = true := by
  intro disk
  let world := Transfer.worldOf disk Transfer.oneChunk
  have stored : blankPolicy.IsStored world.disk "policy.json" := blankPolicy_isStored
  have aside : PreparesAside "policy.json" "updates" world := .of_quiet rfl
  have prepared : (Disk.makePrivateDirectory "updates" world.disk).1 = .ok () :=
    congrArg Prod.fst (storedDisk_prepared _)
  obtain ⟨manager, later, started⟩ : ∃ manager later,
      start true 1 .default "updates" (.file "policy.json") world = (.ok manager, later) :=
    start_of_isStored stored aside prepared
  have custom : manager.policy.customUrl = some "  " :=
    congrArg Policy.customUrl (policy_of_start stored aside started)
  have effective : manager.effectiveUrl = "  " := by
    rw [effectiveUrl, custom]
    rfl
  refine ⟨blankPolicy_isStored, manager, later, started, custom, fun proper => ?_, ?_, ?_⟩
  · exact absurd ((proper _ custom).2.front ' ' (by decide)) (by decide)
  · rw [effective]
    decide
  · rw [effective]
    decide

end SelfUpdate.Manager
