import SelfUpdate.Download.Cleanup
import SelfUpdate.Proofs.Disk.DeadEnds
import SelfUpdate.Proofs.Download.Integrity

/-!
# What a cleanup removes

The entries of a directory are looked at in turn, while links among them may lead to others that have
gone already. Whatever the order, the report counts the entries that disappear, all of which led to
files, and after a complete cleanup none is left that does.
-/

namespace SelfUpdate.Cleanup

variable {directory : Path} {home : Location} {before : Disk} {seen : List Path}
  {report : CleanupReport} {disk : Disk} {gone : List String} {world : World}

/-! ## While it goes on -/

/-- What a cleanup has done to a directory when it has seen some of its entries. Nothing can be
removed in a sealed directory, and everything can in another one. -/
structure Sweeping (directory : Path) (home : Location) (before : Disk) (seen : List Path)
    (report : CleanupReport) (disk : Disk) (gone : List String) : Prop where
  tree : disk.IsTree
  leads : disk.Leads directory home
  workingDirectory : disk.workingDirectory = before.workingDirectory
  sealedDirectories : disk.sealedDirectories = before.sealedDirectories
  lookups : ∀ other, disk.get? other =
    if other ∈ gone.map (fun name => home ++ [name]) then none else before.get? other
  distinct : gone.Nodup
  files : ∀ name ∈ gone, (before.get? (home ++ [name])).isSome = true ∧
    before.isFile (Path.join directory name) = true
  removed : report.removed = gone.length
  unsealed : gone ≠ [] → before.isSealed home = false
  failed : ∀ path ∈ report.failed, before.isSealed home = true ∧
    ∃ name, path = Path.join directory name ∧ (before.get? (home ++ [name])).isSome = true ∧
      before.isFile path = true
  seen : ∀ path ∈ seen, disk.isFile path = true → path ∈ report.failed

namespace Sweeping

theorem start (tree : before.IsTree) (leads : before.Leads directory home) :
    Sweeping directory home before [] .empty before [] where
  tree := tree
  leads := leads
  workingDirectory := rfl
  sealedDirectories := rfl
  lookups other := by simp
  distinct := .nil
  files name listed := absurd listed List.not_mem_nil
  removed := rfl
  unsealed some_ := absurd rfl some_
  failed path listed := absurd listed List.not_mem_nil
  seen path listed := absurd listed List.not_mem_nil

section

variable (sweeping : Sweeping directory home before seen report disk gone)
include sweeping

/-- Entries only disappear. -/
theorem earlier (other : Location) (node : Node) (found : disk.get? other = some node) :
    before.get? other = some node := by
  rw [sweeping.lookups] at found
  split at found
  · cases found
  · exact found

theorem isFile_before {path : Path} (file : disk.isFile path = true) : before.isFile path = true :=
  Disk.isFile_of_lookups sweeping.earlier sweeping.workingDirectory.symm file

/-- An entry that leads to no file is passed over. -/
theorem pass {path : Path} (other : disk.isFile path = false) :
    Sweeping directory home before (path :: seen) report disk gone :=
  { sweeping with
    seen := fun path listed file => by
      rcases List.mem_cons.mp listed with rfl | old
      · cases other.symm.trans file
      · exact sweeping.seen path old file }

/-- In a sealed directory an entry that leads to a file is kept, and reported. -/
theorem keep {name : String} (present : (disk.get? (home ++ [name])).isSome = true)
    (file : disk.isFile (Path.join directory name) = true) (locked : disk.isSealed home = true) :
    Sweeping directory home before (Path.join directory name :: seen)
      { report with failed := report.failed ++ [Path.join directory name] } disk gone :=
  { sweeping with
    failed := fun path listed => by
      rcases List.mem_append.mp listed with old | new
      · exact sweeping.failed path old
      · obtain rfl := List.mem_singleton.mp new
        obtain ⟨node, found⟩ := Option.isSome_iff_exists.mp present
        rw [Disk.isSealed, sweeping.sealedDirectories] at locked
        exact ⟨locked, name, rfl, by rw [sweeping.earlier _ _ found]; rfl,
          sweeping.isFile_before file⟩
    seen := fun path listed again => by
      rcases List.mem_cons.mp listed with rfl | old
      · exact List.mem_append_right _ (List.mem_singleton.mpr rfl)
      · exact List.mem_append_left _ (sweeping.seen path old again) }

/-- In another directory it disappears, and what led there leads to no file any more. -/
theorem remove {name : String} (named : Path.isName name = true)
    (present : (disk.get? (home ++ [name])).isSome = true)
    (file : disk.isFile (Path.join directory name) = true) (dead : disk.DeadEnd (home ++ [name]))
    (unlocked : disk.isSealed home = false) :
    Sweeping directory home before (Path.join directory name :: seen)
      { report with removed := report.removed + 1 } (disk.erase (home ++ [name]))
      (name :: gone) := by
  have some_ : home ++ [name] ≠ [] := by simp
  have lookup := sweeping.tree.get?_erase_solid some_ dead.solid
  have fresh : name ∉ gone := by
    intro listed
    rw [sweeping.lookups, if_pos (List.mem_map.mpr ⟨name, listed, rfl⟩)] at present
    cases present
  have leads := sweeping.leads.erase_deadEnd sweeping.tree some_ dead
  refine ⟨sweeping.tree.erase some_, leads, sweeping.workingDirectory, sweeping.sealedDirectories,
    fun other => ?_, List.nodup_cons.mpr ⟨fresh, sweeping.distinct⟩, ?_, ?_, fun _ => ?_,
    sweeping.failed, fun path listed again => ?_⟩
  · rw [lookup, sweeping.lookups, List.map_cons]
    by_cases here : other = home ++ [name]
    · rw [if_pos here, if_pos (List.mem_cons.mpr (.inl here))]
    · rw [if_neg here]
      simp only [List.mem_cons, here, false_or]
  · rw [List.forall_mem_cons]
    refine ⟨⟨?_, sweeping.isFile_before file⟩, sweeping.files⟩
    obtain ⟨node, found⟩ := Option.isSome_iff_exists.mp present
    rw [sweeping.earlier _ _ found]
    rfl
  · rw [List.length_cons, ← sweeping.removed]
  · rw [Disk.isSealed, sweeping.sealedDirectories] at unlocked
    exact unlocked
  · have still : disk.isFile path = true :=
      Disk.isFile_of_lookups (fun _ _ => Disk.get?_of_erase some_) rfl again
    rcases List.mem_cons.mp listed with rfl | old
    · have there := (Disk.deadEnd_of_isFile named leads again).2.1
      rw [lookup, if_pos rfl] at there
      cases there
    · exact sweeping.seen path old still

end

end Sweeping

/-! ## One entry, and all of them -/

/-- What becomes of an entry at its turn. -/
inductive Treated (directory : Path) (home : Location) (name : String) (disk : Disk)
    (report : CleanupReport) (gone : List String) : CleanupReport → List String → Prop where
  | passed (astray : disk.isFile (Path.join directory name) = false) :
      Treated directory home name disk report gone report gone
  | kept (file : disk.isFile (Path.join directory name) = true)
      (locked : disk.isSealed home = true) :
      Treated directory home name disk report gone
        { report with failed := report.failed ++ [Path.join directory name] } gone
  | removed (file : disk.isFile (Path.join directory name) = true)
      (unlocked : disk.isSealed home = false) :
      Treated directory home name disk report gone { report with removed := report.removed + 1 }
        (name :: gone)

/-- What a cleanup does about one entry. -/
theorem removeFiles_cons_treated (quiet : world.Quiet) {name : String}
    (named : Path.isName name = true)
    (sweeping : Sweeping directory home before seen report world.disk gone) (paths : List Path) :
    ∃ next later more, removeFiles report (Path.join directory name :: paths) world =
        removeFiles next paths later ∧ later.Quiet ∧
      Treated directory home name world.disk report gone next more ∧
      Sweeping directory home before (Path.join directory name :: seen) next later.disk more := by
  rw [removeFiles]
  simp only [Stateful.bind_run, Stateful.get_run, Stateful.ite_run]
  by_cases file : world.disk.isFile (Path.join directory name) = true
  · obtain ⟨dead, present, text, short⟩ := Disk.deadEnd_of_isFile named sweeping.leads file
    obtain ⟨node, found⟩ := Option.isSome_iff_exists.mp present
    have solid := (Disk.isDirectoryAt_of_get? found).symm.trans dead.solid
    have removal := Disk.removeFile_join named short text sweeping.leads
    rw [found] at removal
    simp only [solid, Bool.false_eq_true, if_false] at removal
    rw [if_pos file, Effect.ofStep_run, removal]
    cases locked : world.disk.isSealed home with
    | true =>
        simp only [if_true, log, Stateful.bind_run, Effect.log_run quiet]
        refine ⟨_, _, gone, rfl, ?_, .kept file locked, ?_⟩
        · rw [World.Quiet, World.sink_recorded]
          exact quiet
        · rw [World.disk_recorded]
          exact sweeping.keep present file locked
    | false =>
        have still : (world.setDisk (world.disk.erase (home ++ [name]))).Quiet := quiet
        simp only [Bool.false_eq_true, if_false, log, Stateful.bind_run, Effect.log_run still]
        refine ⟨_, _, name :: gone, rfl, ?_, .removed file locked, ?_⟩
        · rw [World.Quiet, World.sink_recorded]
          exact still
        · rw [World.disk_recorded]
          exact sweeping.remove named present file dead locked
  · have astray : world.disk.isFile (Path.join directory name) = false := by simpa using file
    rw [if_neg file]
    exact ⟨report, world, gone, rfl, quiet, .passed astray, sweeping.pass astray⟩

theorem removeFiles_sweeping (quiet : world.Quiet) {paths : List Path}
    (named : ∀ path ∈ paths, ∃ name, Path.isName name = true ∧ path = Path.join directory name)
    (sweeping : Sweeping directory home before seen report world.disk gone) :
    ∃ more, Sweeping directory home before (paths.reverse ++ seen)
      (removeFiles report paths world).1 (removeFiles report paths world).2.disk more := by
  induction paths generalizing seen report world gone with
  | nil => exact ⟨gone, sweeping⟩
  | cons path rest ih =>
      rw [List.forall_mem_cons] at named
      obtain ⟨⟨name, proper, rfl⟩, named⟩ := named
      obtain ⟨next, later, more, onward, still, -, swept⟩ :=
        removeFiles_cons_treated quiet proper sweeping rest
      obtain ⟨all, done⟩ := ih still named swept
      rw [onward]
      refine ⟨all, ?_⟩
      rwa [List.reverse_cons, List.append_assoc]

/-- Where nothing leads to a file nothing is done. -/
theorem removeFiles_of_none {paths : List Path}
    (none : ∀ path ∈ paths, world.disk.isFile path = false) :
    removeFiles report paths world = (report, world) := by
  induction paths with
  | nil => rfl
  | cons path rest ih =>
      rw [List.forall_mem_cons] at none
      rw [removeFiles]
      simp only [Stateful.bind_run, Stateful.get_run, Stateful.ite_run, none.1, Bool.false_eq_true,
        if_false]
      exact ih none.2

/-! ## A whole cleanup -/

/-- How a report accounts for a cleanup in which the entries at some locations disappeared: all of
them led to files, everything else is as it was, and what could not be removed is still there. -/
structure Accounts (directory : Path) (before after : Disk) (report : CleanupReport)
    (gone : List Location) : Prop where
  distinct : gone.Nodup
  removed : report.removed = gone.length
  vanished : ∀ location, location ∈ gone ↔
    (before.get? location).isSome = true ∧ after.get? location = none
  files : ∀ location ∈ gone, ∃ home name, location = home ++ [name] ∧
    before.Leads directory home ∧ before.isDirectoryAt location = false ∧
    before.isFile (Path.join directory name) = true
  kept : ∀ location, location ∉ gone → after.get? location = before.get? location
  failed : ∀ path ∈ report.failed, ∃ home name, path = Path.join directory name ∧
    before.Leads directory home ∧ (after.get? (home ++ [name])).isSome = true ∧
    after.isFile path = true

theorem Accounts.nothing (directory : Path) (disk : Disk) :
    Accounts directory disk disk .empty [] where
  distinct := .nil
  removed := rfl
  vanished location := by
    cases disk.get? location <;> simp
  files location listed := absurd listed List.not_mem_nil
  kept location _ := rfl
  failed path listed := absurd listed List.not_mem_nil

/-- The entries that disappeared, and no others, are gone at the end. -/
theorem Sweeping.accounts (sweeping : Sweeping directory home before seen report disk gone)
    (leads : before.Leads directory home)
    (named : ∀ name, (before.get? (home ++ [name])).isSome = true → Path.isName name = true) :
    Accounts directory before disk report (gone.map fun name => home ++ [name]) where
  distinct := sweeping.distinct.map fun _ _ same => by simpa using same
  removed := by rw [sweeping.removed, List.length_map]
  vanished location := by
    rw [sweeping.lookups]
    constructor
    · intro listed
      obtain ⟨name, member, rfl⟩ := List.mem_map.mp listed
      exact ⟨(sweeping.files name member).1, if_pos listed⟩
    · rintro ⟨present, absent⟩
      by_contra other
      rw [if_neg other] at absent
      rw [absent] at present
      cases present
  files location listed := by
    obtain ⟨name, member, rfl⟩ := List.mem_map.mp listed
    obtain ⟨present, file⟩ := sweeping.files name member
    have dead := (Disk.deadEnd_of_isFile (named name present) leads file).1
    exact ⟨home, name, rfl, leads, dead.solid, file⟩
  kept location other := by rw [sweeping.lookups, if_neg other]
  failed path listed := by
    obtain ⟨locked, name, rfl, present, file⟩ := sweeping.failed path listed
    -- in a sealed directory nothing was removed
    have none : gone = [] := by
      by_contra some_
      cases locked.symm.trans (sweeping.unsealed some_)
    have same (other : Location) : disk.get? other = before.get? other := by
      rw [sweeping.lookups, none, List.map_nil, if_neg List.not_mem_nil]
    refine ⟨home, name, rfl, leads, by rw [same]; exact present, ?_⟩
    exact Disk.isFile_of_lookups (fun other _ found => (same other).trans found)
      sweeping.workingDirectory file

theorem list_eq_ok {paths : List Path} (listed : disk.list directory = .ok paths) :
    ∃ home, disk.locate directory = .ok home ∧ disk.isDirectoryAt home = true ∧
      paths = (disk.children home).map (Path.join directory) := by
  rw [Disk.list] at listed
  obtain ⟨home, located, listed⟩ := bind_eq_ok_iff.mp listed
  cases inside : disk.isDirectoryAt home with
  | false => simp [inside] at listed
  | true =>
      simp only [inside, Bool.not_true, Bool.false_eq_true, if_false, pure_eq_ok,
        Except.ok.injEq] at listed
      exact ⟨home, located, inside, listed.symm⟩

theorem run_of_missing (arrange : List Path → List Path)
    (missing : world.disk.list directory = .error .notFound) :
    run arrange directory world = (.ok .empty, world) := by
  rw [run]
  simp only [Failing.bind_run, Failing.get_run, missing]
  rfl

theorem run_of_listed (arrange : List Path → List Path) {paths : List Path}
    (listed : world.disk.list directory = .ok paths) :
    run arrange directory world =
      (.ok (removeFiles .empty (arrange paths) world).1,
        (removeFiles .empty (arrange paths) world).2) := by
  rw [run]
  simp only [Failing.bind_run, Failing.get_run, listed]
  rfl

/-- When all entries were seen and none was reported, there is nothing left to remove. -/
theorem Sweeping.run_again (sweeping : Sweeping directory home before seen report world.disk gone)
    (text : Disk.checkText directory = .ok ())
    (all : ∀ name, (before.get? (home ++ [name])).isSome = true → Path.join directory name ∈ seen)
    (complete : report.failed = []) {arrange : List Path → List Path}
    (fair : ∀ paths, (arrange paths).Perm paths) :
    run arrange directory world = (.ok .empty, world) := by
  have listed : world.disk.list directory =
      .ok ((world.disk.children home).map (Path.join directory)) := by
    rw [Disk.list, Disk.locate_directory sweeping.leads text, ok_bind]
    simp [sweeping.leads.2]
  rw [run_of_listed arrange listed, removeFiles_of_none]
  intro path member
  obtain ⟨name, child, rfl⟩ := List.mem_map.mp ((fair _).mem_iff.mp member)
  obtain ⟨node, found⟩ := Option.isSome_iff_exists.mp (Disk.mem_children_iff.mp child)
  have present : (before.get? (home ++ [name])).isSome = true := by
    rw [sweeping.earlier _ _ found]
    rfl
  by_contra file
  have reported := sweeping.seen _ (all name present) (by simpa using file)
  rw [complete] at reported
  cases reported

/-- A cleanup in any order accounts for what it does, and a complete one leaves nothing to do. A
missing directory stays missing. -/
theorem run_accounts {arrange : List Path → List Path} (quiet : world.Quiet)
    (tree : world.disk.IsTree)
    (named : ∀ above name, (world.disk.get? (above ++ [name])).isSome = true →
      Path.isName name = true)
    (fair : ∀ paths, (arrange paths).Perm paths) (directory : Path) :
    (∀ report after, run arrange directory world = (.ok report, after) →
      (∃ gone, Accounts directory world.disk after.disk report gone) ∧
        (report.failed = [] → ∀ again : List Path → List Path,
          (∀ paths, (again paths).Perm paths) → run again directory after = (.ok .empty, after))) ∧
    (world.disk.locate directory = .error .notFound →
      run arrange directory world = (.ok .empty, world)) := by
  refine ⟨fun report after done => ?_, fun missing => run_of_missing arrange ?_⟩
  · cases listed : world.disk.list directory with
    | error error =>
        cases error with
        | notFound =>
            rw [run_of_missing arrange listed] at done
            cases done
            exact ⟨⟨[], .nothing directory world.disk⟩,
              fun _ again _ => run_of_missing again listed⟩
        | _ =>
            rw [run] at done
            simp only [Failing.bind_run, Failing.get_run, listed] at done
            cases done
    | ok paths =>
        obtain ⟨home, located, inside, rfl⟩ := list_eq_ok listed
        have leads := Disk.Leads.of_locate located inside
        rw [run_of_listed arrange listed] at done
        cases done
        have proper : ∀ path ∈ arrange ((world.disk.children home).map (Path.join directory)),
            ∃ name, Path.isName name = true ∧ path = Path.join directory name := by
          intro path member
          obtain ⟨name, child, rfl⟩ := List.mem_map.mp ((fair _).mem_iff.mp member)
          exact ⟨name, named home name (Disk.mem_children_iff.mp child), rfl⟩
        obtain ⟨gone, swept⟩ := removeFiles_sweeping quiet proper (.start tree leads)
        refine ⟨⟨_, swept.accounts leads (named home)⟩, fun complete again even => ?_⟩
        refine swept.run_again (Disk.locate_eq_ok_iff.mp located).1 (fun name present => ?_) complete
          even
        rw [List.append_nil, List.mem_reverse, (fair _).mem_iff]
        exact List.mem_map.mpr ⟨name, Disk.mem_children_iff.mpr present, rfl⟩
  · rw [Disk.list, missing]
    rfl

/-- A download directory with a file and a link to it. -/
def chained : Disk where
  entries := [(["updates"], .directory Disk.directoryMode), (["updates", "alias"], .link "stale"),
    (["updates", "stale"], .file 0 Disk.fileMode [1])]
  freshIdentity := 1
  workingDirectory := []
  sealedDirectories := []

theorem chained_leads : chained.Leads "updates" ["updates"] :=
  .of_name (by decide) (by decide) rfl rfl

theorem list_chained : chained.list "updates" = .ok ["updates/alias", "updates/stale"] := by
  rw [Disk.list, Disk.locate_directory chained_leads (by decide), ok_bind]
  decide

theorem removeFile_chained : chained.isFile "updates/stale" = true ∧
    chained.removeFile "updates/stale" = .ok (chained.erase ["updates", "stale"]) := by
  have named : Path.isName "stale" = true := by decide
  have short : Disk.isTooLong "stale" = false := by decide
  have joined : Path.join "updates" "stale" = "updates/stale" := by decide
  have text : Disk.checkText (Path.join "updates" "stale") = .ok () := by decide
  have solid (target : Path) : chained.get? ["updates", "stale"] ≠ some (.link target) := by
    intro link
    cases link
  rw [← joined, Disk.isFile, Disk.node?_join named short text chained_leads solid,
    Disk.removeFile_join named short text chained_leads]
  exact ⟨rfl, rfl⟩

/-- Once the file is gone the link leads nowhere. -/
theorem isFile_alias : (chained.erase ["updates", "stale"]).isFile "updates/alias" = false := by
  have pieces : Path.pieces "updates/alias" = ["updates", "alias"] ∧
      Path.pieces "stale" = ["stale"] := by
    decide
  have starts : Disk.origin [] "updates/alias" = [] ∧
      Disk.origin ["updates"] "stale" = ["updates"] := by
    decide
  have text : Disk.checkText "updates/alias" = .ok () := by decide
  have short : Disk.isTooLong "updates" = false ∧ Disk.isTooLong "alias" = false ∧
      Disk.isTooLong "stale" = false := by
    decide
  have base : (chained.erase ["updates", "stale"]).workingDirectory = [] := rfl
  have folder : (chained.erase ["updates", "stale"]).get? ["updates"] =
      some (.directory Disk.directoryMode) :=
    rfl
  have link : (chained.erase ["updates", "stale"]).get? ["updates", "alias"] =
      some (.link "stale") :=
    rfl
  have missing : (chained.erase ["updates", "stale"]).get? ["updates", "stale"] = none := rfl
  simp [Disk.isFile, Disk.node?, Disk.locate, Disk.spot, Disk.walk, Disk.isDirectoryAt,
    Node.isDirectory, Disk.greatestLinkCount, Except.toOption, pieces, starts, text, short, base,
    folder, link, missing]

theorem run_chained :
    run List.reverse "updates" (Transfer.worldOf chained ⟨[], .crash⟩) =
      (.ok ⟨1, []⟩, (Transfer.worldOf chained ⟨[], .crash⟩).setDisk
        (chained.erase ["updates", "stale"])) := by
  have same : (Transfer.worldOf chained ⟨[], .crash⟩).disk = chained := rfl
  have quiet : ((Transfer.worldOf chained ⟨[], .crash⟩).setDisk
      (chained.erase ["updates", "stale"])).Quiet :=
    rfl
  have swept : removeFiles .empty ["updates/stale", "updates/alias"]
      (Transfer.worldOf chained ⟨[], .crash⟩) = (⟨1, []⟩,
        (Transfer.worldOf chained ⟨[], .crash⟩).setDisk (chained.erase ["updates", "stale"])) := by
    rw [removeFiles]
    simp only [Stateful.bind_run, Stateful.get_run, Stateful.ite_run, same, removeFile_chained.1,
      if_true, Effect.ofStep_run, removeFile_chained.2, log, Effect.log_run quiet]
    refine removeFiles_of_none fun path listed => ?_
    obtain rfl := List.mem_singleton.mp listed
    exact isFile_alias
  rw [run_of_listed List.reverse (same ▸ list_chained)]
  exact congrArg (fun ran => (Except.ok ran.1, ran.2)) swept

/-- When the file is met first, the link leads nowhere at its turn and is kept. -/
theorem run_accounts_chained :
    let world := Transfer.worldOf chained ⟨[], .crash⟩
    world.Quiet ∧ chained.IsTree ∧ ∃ after gone,
      run List.reverse "updates" world = (.ok ⟨1, []⟩, after) ∧
        Accounts "updates" chained after.disk ⟨1, []⟩ gone ∧
        run id "updates" after = (.ok .empty, after) := by
  intro world
  have tree : chained.IsTree := .of_entries (by decide) (by decide)
  have named : ∀ above name, (chained.get? (above ++ [name])).isSome = true →
      Path.isName name = true := by
    intro above name present
    obtain ⟨node, listed⟩ := (Disk.isSome_get?_iff (by simp)).mp present
    have all : ∀ entry ∈ chained.entries, ∀ part ∈ entry.1, Path.isName part = true := by decide
    exact all _ listed name (by simp)
  obtain ⟨⟨gone, accounts⟩, again⟩ :=
    (run_accounts rfl tree named List.reverse_perm "updates").1 _ _ run_chained
  exact ⟨rfl, tree, _, gone, run_chained, accounts, again rfl id fun _ => .refl _⟩

end SelfUpdate.Cleanup
