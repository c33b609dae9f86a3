import SelfUpdate.Proofs.Disk.Removals
import SelfUpdate.Proofs.Download.Sweeps

/-!
# What a cleanup leaves behind

An entry is looked at when its turn comes. A link that leads to its file over another entry leads
nowhere once that entry is gone, and is then neither removed nor reported. So what is left depends on
the order in which the directory is read, unless no entry leads over another one.
-/

namespace SelfUpdate.Cleanup

variable {directory : Path} {home : Location} {before disk : Disk} {seen paths : List Path}
  {report next : CleanupReport} {gone more : List String} {world : World} {name other : String}

/-! ## Entries that lead over others -/

/-- Without the other entry this one leads to no file any more. -/
structure LeansOn (directory : Path) (home : Location) (disk : Disk) (name other : String) :
    Prop where
  present : (disk.get? (home ++ [other])).isSome = true
  differ : other ≠ name
  file : disk.isFile (Path.join directory other) = true
  lost : (disk.erase (home ++ [other])).isFile (Path.join directory name) = false

/-- Only links lead over other entries. -/
theorem not_leansOn_of_file {identity mode : Nat} {bytes : Bytes} (tree : disk.IsTree)
    (leads : disk.Leads directory home)
    (names : ∀ name, (disk.get? (home ++ [name])).isSome = true → Path.isName name = true)
    (found : disk.get? (home ++ [name]) = some (.file identity mode bytes))
    (file : disk.isFile (Path.join directory name) = true) (other : String) :
    ¬ LeansOn directory home disk name other := by
  intro leans
  have named := names name (by rw [found]; rfl)
  have some_ : home ++ [other] ≠ [] := by simp
  obtain ⟨-, -, text, short⟩ := Disk.deadEnd_of_isFile named leads file
  obtain ⟨dead, -⟩ := Disk.deadEnd_of_isFile (names other leans.present) leads leans.file
  have kept : (disk.erase (home ++ [other])).get? (home ++ [name]) =
      some (.file identity mode bytes) := by
    rw [Disk.get?_erase _ _ some_, if_neg (Disk.append_ne home leans.differ), found]
  have again : (disk.erase (home ++ [other])).isFile (Path.join directory name) = true := by
    rw [Disk.isFile, Disk.node?_join named short text (leads.erase_deadEnd tree some_ dead)
      (by rw [kept]; simp), kept]
    rfl
  cases leans.lost.symm.trans again

/-- What a cleanup comes to for one entry, when the entries are met in an order: it leads to a file,
and nothing that it leads over is removed before its turn. -/
def Reached (directory : Path) (home : Location) (disk : Disk) (order : List Path) (name : String) :
    Prop :=
  disk.isFile (Path.join directory name) = true ∧ (disk.isSealed home = true ∨
    ∀ other, LeansOn directory home disk name other →
      Path.join directory other ∉ order.takeWhile (· != Path.join directory name))

/-- What a cleanup has settled when it has met some entries. -/
structure Settled (directory : Path) (home : Location) (before : Disk) (met : List Path)
    (report : CleanupReport) (disk : Disk) (gone : List String) : Prop where
  sweeping : Sweeping directory home before met.reverse report disk gone
  among : ∀ name ∈ gone, Path.join directory name ∈ met
  listed : ∀ path ∈ report.failed, path ∈ met
  exact : ∀ name, Path.isName name = true → Path.join directory name ∈ met →
    (name ∈ gone ∨ Path.join directory name ∈ report.failed ↔
      Reached directory home before met name)

namespace Sweeping

variable (sweeping : Sweeping directory home before seen report disk gone)
include sweeping

/-- In a sealed directory nothing is removed. -/
theorem unchanged (locked : before.isSealed home = true) (other : Location) :
    disk.get? other = before.get? other := by
  have none : gone = [] := by
    by_contra some_
    cases locked.symm.trans (sweeping.unsealed some_)
  rw [sweeping.lookups, none, List.map_nil, if_neg List.not_mem_nil]

theorem isSealed : disk.isSealed home = before.isSealed home := by
  rw [Disk.isSealed, sweeping.sealedDirectories, Disk.isSealed]

/-- An entry leads to a file at its turn if what it leads over is still there. -/
theorem isFile_of_upright (leads : before.Leads directory home) (tree : before.IsTree)
    (names : ∀ name, (before.get? (home ++ [name])).isSome = true → Path.isName name = true)
    (file : before.isFile (Path.join directory name) = true) (fresh : name ∉ gone)
    (upright : ∀ other ∈ gone, ¬ LeansOn directory home before name other) :
    disk.isFile (Path.join directory name) = true := by
  refine Disk.isFile_of_each tree ?_ sweeping.lookups sweeping.workingDirectory file ?_
  · intro place listed
    obtain ⟨other, member, rfl⟩ := List.mem_map.mp listed
    obtain ⟨present, otherFile⟩ := sweeping.files other member
    exact ⟨by simp, (Disk.deadEnd_of_isFile (names other present) leads otherFile).1.solid⟩
  · intro place listed
    obtain ⟨other, member, rfl⟩ := List.mem_map.mp listed
    obtain ⟨present, otherFile⟩ := sweeping.files other member
    by_contra lost
    refine upright other member ⟨present, ?_, otherFile, by simpa using lost⟩
    rintro rfl
    exact fresh member

/-- What an entry that leads to a file at its turn leads over was not met before. -/
theorem upright_of_isFile (leads : before.Leads directory home)
    (names : ∀ name, (before.get? (home ++ [name])).isSome = true → Path.isName name = true)
    (unlocked : before.isSealed home = false) (named : Path.isName name = true)
    (file : disk.isFile (Path.join directory name) = true)
    (leans : LeansOn directory home before name other) : Path.join directory other ∉ seen := by
  intro met
  have proper := names other leans.present
  have some_ : home ++ [other] ≠ [] := by simp
  obtain ⟨dead, -, text, short⟩ := Disk.deadEnd_of_isFile proper leads leans.file
  -- the other entry was removed, or it leads to no file any more
  have astray : disk.isFile (Path.join directory other) = false := by
    by_contra still
    obtain ⟨locked, -⟩ := sweeping.failed _ (sweeping.seen _ met (by simpa using still))
    cases unlocked.symm.trans locked
  have without := Disk.isFile_erase_stray sweeping.tree sweeping.leads named proper short text
    (dead.of_lookups sweeping.earlier) file astray
  have fewer (place : Location) (node : Node)
      (found : (disk.erase (home ++ [other])).get? place = some node) :
      (before.erase (home ++ [other])).get? place = some node := by
    rw [Disk.get?_erase _ _ some_] at found ⊢
    split at found
    · cases found
    · rename_i aside
      rw [if_neg aside]
      exact sweeping.earlier place node found
  have base : (before.erase (home ++ [other])).workingDirectory =
      (disk.erase (home ++ [other])).workingDirectory :=
    sweeping.workingDirectory.symm
  have again := Disk.isFile_of_lookups fewer base without
  cases leans.lost.symm.trans again

end Sweeping

/-- What was met before a path does not change when more is met after it. -/
theorem takeWhile_append_of_mem {path : Path} {met : List Path} (member : path ∈ met)
    (rest : List Path) :
    (met ++ rest).takeWhile (· != path) = met.takeWhile (· != path) := by
  induction met with
  | nil => cases member
  | cons first others ih =>
      rw [List.cons_append, List.takeWhile_cons, List.takeWhile_cons]
      by_cases here : first = path
      · rw [if_neg (by simp [here]), if_neg (by simp [here])]
      · rw [ih ((List.mem_cons.mp member).resolve_left (Ne.symm here))]

theorem takeWhile_append_of_not_mem {path : Path} {met : List Path} (fresh : path ∉ met)
    (rest : List Path) : (met ++ path :: rest).takeWhile (· != path) = met := by
  have all : ∀ other ∈ met, (other != path) = true := by
    intro other member
    rw [bne_iff_ne]
    rintro rfl
    exact fresh member
  rw [List.takeWhile_append_of_pos all]
  simp

namespace Settled

variable {met : List Path} {after : Disk}

theorem start (tree : before.IsTree) (leads : before.Leads directory home) :
    Settled directory home before [] .empty before [] where
  sweeping := .start tree leads
  among _ listed := absurd listed List.not_mem_nil
  listed _ listed := absurd listed List.not_mem_nil
  exact _ _ listed := absurd listed List.not_mem_nil

/-- An entry that is met for the first time. -/
theorem exact_of_new (settled : Settled directory home before met report disk gone)
    (leads : before.Leads directory home) (tree : before.IsTree)
    (names : ∀ name, (before.get? (home ++ [name])).isSome = true → Path.isName name = true)
    (named : Path.isName name = true) (fresh : Path.join directory name ∉ met)
    (treated : Treated directory home name disk report gone next more) :
    name ∈ more ∨ Path.join directory name ∈ next.failed ↔
      Reached directory home before (met ++ [Path.join directory name]) name := by
  have sweeping := settled.sweeping
  rw [Reached, takeWhile_append_of_not_mem fresh]
  cases treated with
  | passed astray =>
      constructor
      · rintro (listed | listed)
        · exact absurd (settled.among _ listed) fresh
        · exact absurd (settled.listed _ listed) fresh
      · rintro ⟨file, upright⟩
        have again : disk.isFile (Path.join directory name) = true := by
          rcases upright with locked | upright
          · have same := sweeping.unchanged locked
            exact Disk.isFile_of_lookups (fun other _ found => (same other).trans found)
              sweeping.workingDirectory file
          · refine sweeping.isFile_of_upright leads tree names file
              (fun listed => fresh (settled.among _ listed)) fun other listed leans => ?_
            exact upright other leans (settled.among _ listed)
        cases astray.symm.trans again
  | kept file locked =>
      rw [sweeping.isSealed] at locked
      refine iff_of_true (.inr ?_) ⟨sweeping.isFile_before file, .inl locked⟩
      exact List.mem_append_right _ (List.mem_singleton.mpr rfl)
  | removed file unlocked =>
      rw [sweeping.isSealed] at unlocked
      refine iff_of_true (.inl List.mem_cons_self) ⟨sweeping.isFile_before file, .inr ?_⟩
      intro other leans listed
      exact sweeping.upright_of_isFile leads names unlocked named file leans
        (List.mem_reverse.mpr listed)

/-- An entry that was met before stays settled. -/
theorem same_of_old (settled : Settled directory home before met report disk gone)
    (old : Path.join directory other ∈ met) (named : Path.isName name = true)
    (otherNamed : Path.isName other = true)
    (treated : Treated directory home name disk report gone next more) :
    (other ∈ more ∨ Path.join directory other ∈ next.failed) ↔
      (other ∈ gone ∨ Path.join directory other ∈ report.failed) := by
  have reported (file : disk.isFile (Path.join directory name) = true) (same : other = name) :
      Path.join directory other ∈ report.failed := by
    subst same
    exact settled.sweeping.seen _ (List.mem_reverse.mpr old) file
  cases treated with
  | passed => exact Iff.rfl
  | kept file =>
      rw [List.mem_append, List.mem_singleton, Path.join_inj otherNamed named, ← or_assoc]
      exact or_iff_left_of_imp fun same => .inr (reported file same)
  | removed file =>
      rw [List.mem_cons, or_assoc]
      exact or_iff_right_of_imp fun same => .inr (reported file same)

/-- One more entry is settled. -/
theorem step (settled : Settled directory home before met report disk gone)
    (leads : before.Leads directory home) (tree : before.IsTree)
    (names : ∀ name, (before.get? (home ++ [name])).isSome = true → Path.isName name = true)
    (named : Path.isName name = true)
    (treated : Treated directory home name disk report gone next more)
    (swept : Sweeping directory home before (Path.join directory name :: met.reverse) next after
      more) :
    Settled directory home before (met ++ [Path.join directory name]) next after more := by
  have last : Path.join directory name ∈ met ++ [Path.join directory name] :=
    List.mem_append_right _ (List.mem_singleton.mpr rfl)
  refine ⟨by rwa [List.reverse_append], fun other listed => ?_, fun path listed => ?_,
    fun other proper member => ?_⟩
  · cases treated with
    | passed | kept => exact List.mem_append_left _ (settled.among other listed)
    | removed =>
        rcases List.mem_cons.mp listed with rfl | old
        · exact last
        · exact List.mem_append_left _ (settled.among other old)
  · cases treated with
    | passed | removed => exact List.mem_append_left _ (settled.listed path listed)
    | kept =>
        rcases List.mem_append.mp listed with old | new
        · exact List.mem_append_left _ (settled.listed path old)
        · exact List.mem_append_right _ new
  · by_cases old : Path.join directory other ∈ met
    · rw [settled.same_of_old old named proper treated, settled.exact other proper old, Reached,
        Reached, takeWhile_append_of_mem old]
    · have new := List.mem_singleton.mp ((List.mem_append.mp member).resolve_left old)
      obtain rfl := (Path.join_inj proper named).mp new
      exact settled.exact_of_new leads tree names named old treated

end Settled

/-- What a cleanup has settled when it has met all entries. -/
theorem removeFiles_settled {met : List Path} (quiet : world.Quiet)
    (leads : before.Leads directory home) (tree : before.IsTree)
    (names : ∀ name, (before.get? (home ++ [name])).isSome = true → Path.isName name = true)
    (proper : ∀ path ∈ paths, ∃ name, Path.isName name = true ∧ path = Path.join directory name)
    (settled : Settled directory home before met report world.disk gone) :
    ∃ more, Settled directory home before (met ++ paths) (removeFiles report paths world).1
      (removeFiles report paths world).2.disk more := by
  induction paths generalizing met report world gone with
  | nil => exact ⟨gone, by rwa [List.append_nil]⟩
  | cons path rest ih =>
      rw [List.forall_mem_cons] at proper
      obtain ⟨⟨name, named, rfl⟩, proper⟩ := proper
      obtain ⟨next, later, more, onward, still, treated, swept⟩ :=
        removeFiles_cons_treated quiet named settled.sweeping rest
      have all := ih still proper (settled.step leads tree names named treated swept)
      rwa [onward, List.append_cons]

/-! ## A whole cleanup -/

/-- The entries of a directory in the order in which a cleanup meets them. -/
def order (arrange : List Path → List Path) (directory : Path) (home : Location) (disk : Disk) :
    List Path :=
  arrange ((disk.children home).map (Path.join directory))

/-- Every entry that led to a file is gone or reported. -/
def Thorough (directory : Path) (home : Location) (before after : Disk) (report : CleanupReport) :
    Prop :=
  ∀ name ∈ before.children home, before.LeadsToFile home name →
    after.get? (home ++ [name]) = none ∨ Path.join directory name ∈ report.failed

/-- No entry leads to its file over another one. -/
def Upright (directory : Path) (home : Location) (disk : Disk) : Prop :=
  ∀ name ∈ disk.children home, disk.isFile (Path.join directory name) = true →
    ∀ other, ¬ LeansOn directory home disk name other

section

variable {arrange : List Path → List Path} (fair : ∀ paths, (arrange paths).Perm paths)
include fair

theorem mem_order (child : name ∈ disk.children home) :
    Path.join directory name ∈ order arrange directory home disk :=
  (fair _).mem_iff.mpr (List.mem_map.mpr ⟨name, child, rfl⟩)

variable (quiet : world.Quiet) (tree : world.disk.IsTree)
  (names : ∀ name, (world.disk.get? (home ++ [name])).isSome = true → Path.isName name = true)
  (located : world.disk.locate directory = .ok home)
  (inside : world.disk.isDirectoryAt home = true)
include quiet tree names located inside

theorem run_settled : ∃ report after gone, run arrange directory world = (.ok report, after) ∧
    Settled directory home world.disk (order arrange directory home world.disk) report after.disk
      gone := by
  have leads := Disk.Leads.of_locate located inside
  have listed : world.disk.list directory =
      .ok ((world.disk.children home).map (Path.join directory)) := by
    rw [Disk.list, located, ok_bind]
    simp [inside]
  have proper : ∀ path ∈ order arrange directory home world.disk,
      ∃ name, Path.isName name = true ∧ path = Path.join directory name := by
    intro path member
    obtain ⟨name, child, rfl⟩ := List.mem_map.mp ((fair _).mem_iff.mp member)
    exact ⟨name, names name (Disk.mem_children_iff.mp child), rfl⟩
  obtain ⟨gone, settled⟩ := removeFiles_settled quiet leads tree names proper (.start tree leads)
  exact ⟨_, _, gone, run_of_listed arrange listed, settled⟩

/-- An entry is gone or reported exactly if it is reached. -/
theorem run_reached : ∃ report after, run arrange directory world = (.ok report, after) ∧
    ∀ name ∈ world.disk.children home,
      (after.disk.get? (home ++ [name]) = none ∨ Path.join directory name ∈ report.failed ↔
        Reached directory home world.disk (order arrange directory home world.disk) name) := by
  obtain ⟨report, after, gone, ran, settled⟩ :=
    run_settled fair quiet tree names located inside
  refine ⟨report, after, ran, fun name child => ?_⟩
  have present := Disk.mem_children_iff.mp child
  rw [← settled.exact name (names name present) (mem_order fair child), settled.sweeping.lookups]
  refine or_congr_left ?_
  constructor
  · intro absent
    by_contra kept
    rw [if_neg (by simpa using kept)] at absent
    rw [absent] at present
    cases present
  · exact fun listed => if_pos (List.mem_map.mpr ⟨name, listed, rfl⟩)

/-- Where no entry leads over another, all entries that are reached disappear. -/
theorem run_lookups_of_upright (upright : Upright directory home world.disk) (other : Location) :
    (run arrange directory world).2.disk.get? other =
      if world.disk.isSealed home = false ∧ ∃ name ∈ world.disk.children home,
        other = home ++ [name] ∧ world.disk.isFile (Path.join directory name) = true
      then none else world.disk.get? other := by
  obtain ⟨report, after, gone, ran, settled⟩ :=
    run_settled fair quiet tree names located inside
  have sweeping := settled.sweeping
  rw [ran, sweeping.lookups]
  refine if_congr ?_ rfl rfl
  rw [List.mem_map]
  constructor
  · rintro ⟨name, listed, rfl⟩
    obtain ⟨present, file⟩ := sweeping.files name listed
    exact ⟨sweeping.unsealed (List.ne_nil_of_mem listed), name, Disk.mem_children_iff.mpr present,
      rfl, file⟩
  · rintro ⟨unlocked, name, child, rfl, file⟩
    have present := Disk.mem_children_iff.mp child
    have reached : Reached directory home world.disk (order arrange directory home world.disk)
        name :=
      ⟨file, .inr fun other leans => absurd leans (upright name child file other)⟩
    rcases (settled.exact name (names name present) (mem_order fair child)).mpr reached with
      listed | listed
    · exact ⟨name, listed, rfl⟩
    · cases unlocked.symm.trans (sweeping.failed _ listed).1

end

/-- The order that meets one entry first. -/
def foremost (path : Path) (paths : List Path) : List Path :=
  if path ∈ paths then path :: paths.erase path else paths

theorem foremost_perm (path : Path) (paths : List Path) : (foremost path paths).Perm paths := by
  rw [foremost]
  split
  · rename_i member
    exact (List.perm_cons_erase member).symm
  · exact .refl _

/-- A cleanup of a directory ends with a report, whatever the order. An entry is gone or in the
report exactly if its path leads to a file and leads over no entry that was met earlier. So in every
order all entries that led to files are, exactly if their paths lead there and none leads over
another one. Only links do that. Where none does, what disappears does not depend on the order. -/
theorem run_thorough_iff (quiet : world.Quiet) (tree : world.disk.IsTree)
    (names : ∀ name, (world.disk.get? (home ++ [name])).isSome = true → Path.isName name = true)
    (located : world.disk.locate directory = .ok home)
    (inside : world.disk.isDirectoryAt home = true) :
    (∀ arrange : List Path → List Path, (∀ paths, (arrange paths).Perm paths) →
      ∃ report after, run arrange directory world = (.ok report, after) ∧
        ∀ name ∈ world.disk.children home,
          (after.disk.get? (home ++ [name]) = none ∨ Path.join directory name ∈ report.failed ↔
            Reached directory home world.disk (order arrange directory home world.disk) name)) ∧
    ((∀ arrange : List Path → List Path, (∀ paths, (arrange paths).Perm paths) →
        ∀ report after, run arrange directory world = (.ok report, after) →
          Thorough directory home world.disk after.disk report) ↔
      (∀ name ∈ world.disk.children home, world.disk.LeadsToFile home name →
        world.disk.isFile (Path.join directory name) = true) ∧
      (world.disk.isSealed home = true ∨ Upright directory home world.disk)) ∧
    (∀ name identity mode bytes, world.disk.get? (home ++ [name]) =
        some (.file identity mode bytes) → world.disk.isFile (Path.join directory name) = true →
      ∀ other, ¬ LeansOn directory home world.disk name other) ∧
    (Upright directory home world.disk → ∀ arrange again : List Path → List Path,
      (∀ paths, (arrange paths).Perm paths) → (∀ paths, (again paths).Perm paths) →
        ∀ other, (run arrange directory world).2.disk.get? other =
          (run again directory world).2.disk.get? other) := by
  have reaches {arrange : List Path → List Path} (fair : ∀ paths, (arrange paths).Perm paths) :=
    run_reached fair quiet tree names located inside
  have leads := Disk.Leads.of_locate located inside
  refine ⟨fun arrange fair => reaches fair, ⟨fun thorough => ?_, fun ⟨shown, stands⟩ => ?_⟩,
    fun name identity mode bytes found file => not_leansOn_of_file tree leads names found file,
    fun upright arrange again fair even other => ?_⟩
  · have settled {arrange : List Path → List Path} (fair : ∀ paths, (arrange paths).Perm paths)
        {name : String} (child : name ∈ world.disk.children home)
        (file : world.disk.LeadsToFile home name) :
        Reached directory home world.disk (order arrange directory home world.disk) name := by
      obtain ⟨report, after, ran, all⟩ := reaches fair
      exact (all name child).mp (thorough arrange fair report after ran name child file)
    refine ⟨fun name child file => (settled (.refl ·) child file).1, ?_⟩
    by_contra neither
    obtain ⟨unlocked, leaning⟩ := not_or.mp neither
    refine leaning fun name child file other leans => ?_
    -- the other entry is met first
    have named := names name (Disk.mem_children_iff.mp child)
    obtain ⟨-, late⟩ := settled (foremost_perm (Path.join directory other)) child
      (.of_isFile_join leads named file)
    refine late.resolve_left unlocked other leans ?_
    have listed : Path.join directory other ∈
        (world.disk.children home).map (Path.join directory) :=
      List.mem_map.mpr ⟨other, Disk.mem_children_iff.mpr leans.present, rfl⟩
    have apart : Path.join directory other ≠ Path.join directory name := fun same =>
      leans.differ ((Path.join_inj (names other leans.present) named).mp same)
    rw [order, foremost, if_pos listed, List.takeWhile_cons, if_pos (by simpa using apart)]
    exact List.mem_cons_self
  · intro arrange fair report after ran name child file
    obtain ⟨_, _, same, all⟩ := reaches fair
    cases ran.symm.trans same
    refine (all name child).mpr ⟨shown name child file, stands.imp_right fun upright => ?_⟩
    exact fun other leans => absurd leans (upright name child (shown name child file) other)
  · rw [run_lookups_of_upright fair quiet tree names located inside upright,
      run_lookups_of_upright even quiet tree names located inside upright]

theorem chained_names (name : String)
    (present : (chained.get? (["updates"] ++ [name])).isSome = true) :
    Path.isName name = true := by
  obtain ⟨node, listed⟩ := (Disk.isSome_get?_iff (by simp)).mp present
  have all : ∀ entry ∈ chained.entries, ∀ part ∈ entry.1, Path.isName part = true := by decide
  exact all _ listed name (by simp)

/-- The link is reached when it is met before the file. -/
theorem run_thorough_iff_chained :
    let world := Transfer.worldOf chained ⟨[], .crash⟩
    world.Quiet ∧ chained.IsTree ∧ chained.locate "updates" = .ok ["updates"] ∧
      chained.isDirectoryAt ["updates"] = true ∧
      ∀ arrange : List Path → List Path, (∀ paths, (arrange paths).Perm paths) →
        ∃ report after, run arrange "updates" world = (.ok report, after) ∧
          ∀ name ∈ chained.children ["updates"],
            (after.disk.get? (["updates"] ++ [name]) = none ∨
                Path.join "updates" name ∈ report.failed ↔
              Reached "updates" ["updates"] chained
                (order arrange "updates" ["updates"] chained) name) := by
  intro world
  have quiet : world.Quiet := rfl
  have tree : chained.IsTree := .of_entries (by decide) (by decide)
  have located := Disk.locate_directory chained_leads (by decide)
  exact ⟨quiet, tree, located, rfl, (run_thorough_iff quiet tree chained_names located rfl).1⟩

/-! ## Links that are missed -/

theorem isFile_alias_chained : chained.isFile (Path.join "updates" "alias") = true := by
  have stale : Disk.Reaches chained 39 ["updates"] ["stale"] 39 ["updates", "stale"] :=
    .into rfl (by decide) (by decide) (show chained.get? ["updates", "stale"] = some _ from rfl)
      nofun (.here _ _)
  have alias_ : Disk.Reaches chained 40 ["updates"] ["alias"] 39 ["updates", "stale"] := by
    have pieces : Path.pieces "stale" = ["stale"] := by decide
    have starts : Disk.origin ["updates"] "stale" = ["updates"] := by decide
    refine .through rfl (by decide) (by decide)
      (show chained.get? ["updates", "alias"] = some (.link "stale") from rfl) ?_
    rw [starts, pieces]
    exact stale
  have way : Disk.Reaches chained 40 [] ["updates"] 40 ["updates"] :=
    .into rfl (by decide) (by decide) (show chained.get? ["updates"] = some _ from rfl) nofun
      (.here _ _)
  have pieces : Path.pieces (Path.join "updates" "alias") = ["updates", "alias"] := by decide
  have starts : Disk.origin chained.workingDirectory (Path.join "updates" "alias") = [] := by
    decide
  refine Disk.isFile_iff_reaches.mpr ⟨by decide, 39, ["updates", "stale"], 0, Disk.fileMode, [1],
    ?_, rfl⟩
  rw [pieces, starts]
  exact way.append alias_

/-- When the link is met first it goes. -/
theorem run_chained_in_order :
    (run id "updates" (Transfer.worldOf chained ⟨[], .crash⟩)).2.disk.get? ["updates", "alias"] =
      none := by
  have tree : chained.IsTree := .of_entries (by decide) (by decide)
  have located := Disk.locate_directory chained_leads (by decide)
  have child : "alias" ∈ chained.children ["updates"] := by decide
  have first : (order id "updates" ["updates"] chained).takeWhile
      (· != Path.join "updates" "alias") = [] := by
    decide
  have quiet : (Transfer.worldOf chained ⟨[], .crash⟩).Quiet := rfl
  obtain ⟨report, after, gone, ran, settled⟩ := run_settled (fun paths => .refl (id paths)) quiet
    tree chained_names located rfl
  have reached : Reached "updates" ["updates"] chained (order id "updates" ["updates"] chained)
      "alias" := by
    refine ⟨isFile_alias_chained, .inr fun other _ => ?_⟩
    rw [first]
    exact List.not_mem_nil
  have listed : "alias" ∈ gone := by
    rcases (settled.exact "alias" (by decide) (mem_order (fun paths => .refl (id paths)) child)).mpr
      reached with listed | listed
    · exact listed
    · cases (settled.sweeping.failed _ listed).1
  rw [ran, settled.sweeping.lookups]
  exact if_pos (List.mem_map.mpr ⟨"alias", listed, rfl⟩)

/-- A path that goes through the link in the root so many times. -/
def hops : Nat → Path → Path
  | 0, path => path
  | count + 1, path => "hop" ++ "/" ++ hops count path

theorem pieces_hops (count : Nat) (path : Path) :
    Path.pieces (hops count path) = List.replicate count "hop" ++ Path.pieces path := by
  induction count with
  | zero => rfl
  | succ count ih =>
      have piece : Path.pieces "hop" = ["hop"] := by decide
      rw [hops, Path.pieces_append_slash, ih, piece, List.replicate_succ]
      rfl

/-- A link in a download directory that is itself behind a link. Each of the two paths is followed
through twenty-six links. -/
def hopping : Disk where
  entries := [(["hop"], .link "."), (["file"], .file 0 Disk.fileMode [1]),
    (["real"], .directory Disk.directoryMode), (["real", "far"], .link ("../" ++ hops 25 "file")),
    (["updates"], .link (hops 25 "real"))]
  freshIdentity := 1
  workingDirectory := []
  sealedDirectories := []

/-- Each passage uses up a link. -/
theorem walk_hops (links count : Nat) (rest : List String) :
    hopping.walk .target (links + count) [] (List.replicate count "hop" ++ rest) =
      hopping.walk .target links [] rest := by
  have link : hopping.get? ["hop"] = some (.link ".") := rfl
  have short : Disk.isTooLong "hop" = false := by decide
  have pieces : Path.pieces "." = ["."] := by decide
  have starts : Disk.origin [] "." = [] := by decide
  induction count with
  | zero => rfl
  | succ count ih =>
      rw [List.replicate_succ, List.cons_append, ← Nat.add_assoc, Disk.walk]
      simp [link, short, pieces, starts, Disk.isDirectoryAt, Node.isDirectory]
      rw [Disk.walk]
      simp [Disk.isDirectoryAt, Node.isDirectory, ih]

/-- Where too few links are left a path is not followed to its end. -/
theorem walk_hops_exhausted (links more : Nat) (rest : List String) :
    hopping.walk .target links [] (List.replicate (links + more + 1) "hop" ++ rest) =
      .error .tooManyLinks := by
  have link : hopping.get? ["hop"] = some (.link ".") := rfl
  have short : Disk.isTooLong "hop" = false := by decide
  have apart : List.replicate (links + more + 1) "hop" ++ rest =
      List.replicate links "hop" ++ ("hop" :: (List.replicate more "hop" ++ rest)) := by
    rw [Nat.add_assoc, List.replicate_add, List.append_assoc, List.replicate_succ]
    rfl
  have passed := walk_hops 0 links ("hop" :: (List.replicate more "hop" ++ rest))
  rw [Nat.zero_add] at passed
  rw [apart, passed, Disk.walk]
  simp [link, short, Disk.isDirectoryAt, Node.isDirectory]

theorem locate_hopping : hopping.locate "updates" = .ok ["real"] := by
  have link : hopping.get? ["updates"] = some (.link (hops 25 "real")) := rfl
  have folder : hopping.get? ["real"] = some (.directory Disk.directoryMode) := rfl
  have short : Disk.isTooLong "updates" = false ∧ Disk.isTooLong "real" = false := by decide
  have pieces : Path.pieces "updates" = ["updates"] ∧ Path.pieces "real" = ["real"] := by decide
  have text : Disk.checkText "updates" = .ok () := by decide
  have starts : Disk.origin [] "updates" = [] ∧ Disk.origin [] (hops 25 "real") = [] := by decide
  have base : hopping.workingDirectory = [] := rfl
  have passed := walk_hops 14 25 ["real"]
  have walked : hopping.walk .target 40 [] ["updates"] = .ok (.occupied ["real"]) := by
    rw [Disk.walk]
    simp [link, short, Disk.isDirectoryAt, Node.isDirectory, starts, pieces_hops, pieces] at passed ⊢
    rw [passed, Disk.walk]
    simp [folder, short, Disk.isDirectoryAt, Node.isDirectory, Disk.walk]
  simp [Disk.locate, Disk.spot, text, base, starts, pieces, Disk.greatestLinkCount, walked]

theorem origin_far : Disk.origin ["real"] ("../" ++ hops 25 "file") = ["real"] := by
  have relative : Path.isAbsolute "../" = false := by decide
  rw [Disk.origin, Path.isAbsolute_append _ _ (by decide), relative]
  rfl

theorem pieces_far : Path.pieces ("../" ++ hops 25 "file") =
    ".." :: (List.replicate 25 "hop" ++ ["file"]) := by
  have front : Path.pieces ".." = [".."] := by decide
  have last : Path.pieces "file" = ["file"] := by decide
  have split_ : "../" ++ hops 25 "file" = ".." ++ "/" ++ hops 25 "file" := by decide
  rw [split_, Path.pieces_append_slash, pieces_hops, front, last]
  rfl

/-- From the directory itself the link leads to the file. -/
theorem leadsToFile_hopping : hopping.LeadsToFile ["real"] "far" := by
  have file : hopping.walk .target 14 [] ["file"] = .ok (.occupied ["file"]) := by
    have found : hopping.get? ["file"] = some (.file 0 Disk.fileMode [1]) := rfl
    have short : Disk.isTooLong "file" = false := by decide
    simp [Disk.walk, found, short, Disk.isDirectoryAt, Node.isDirectory]
  obtain ⟨left, reached⟩ := Disk.walk_eq_occupied_iff.mp ((walk_hops 14 25 ["file"]).trans file)
  refine ⟨left, ["file"], 0, Disk.fileMode, [1], ?_, rfl⟩
  refine .through rfl (by decide) (by decide)
    (show hopping.get? ["real", "far"] = some (.link ("../" ++ hops 25 "file")) from rfl) ?_
  rw [origin_far, pieces_far]
  exact .up rfl reached

/-- Over the path of the directory it is behind too many links. -/
theorem isFile_hopping : hopping.isFile "updates/far" = false := by
  have folder : hopping.get? ["updates"] = some (.link (hops 25 "real")) := rfl
  have real : hopping.get? ["real"] = some (.directory Disk.directoryMode) := rfl
  have link : hopping.get? ["real", "far"] = some (.link ("../" ++ hops 25 "file")) := rfl
  have short : Disk.isTooLong "updates" = false ∧ Disk.isTooLong "real" = false ∧
      Disk.isTooLong "far" = false := by
    decide
  have pieces : Path.pieces "updates/far" = ["updates", "far"] ∧
      Path.pieces "real" = ["real"] := by
    decide
  have text : Disk.checkText "updates/far" = .ok () := by decide
  have starts : Disk.origin [] "updates/far" = [] ∧ Disk.origin [] (hops 25 "real") = [] := by
    decide
  have base : hopping.workingDirectory = [] := rfl
  have passed := walk_hops 14 25 ["real", "far"]
  have stuck := walk_hops_exhausted 13 11 ["file"]
  have inside : hopping.walk .target 14 [] ["real", "far"] = .error .tooManyLinks := by
    rw [Disk.walk]
    simp [real, short, Disk.isDirectoryAt, Node.isDirectory]
    rw [Disk.walk]
    simp [real, link, short, origin_far, pieces_far, Disk.isDirectoryAt, Node.isDirectory]
    rw [Disk.walk]
    simp [real, Disk.isDirectoryAt, Node.isDirectory]
    exact stuck
  have walked : hopping.walk .target 40 [] ["updates", "far"] = .error .tooManyLinks := by
    rw [Disk.walk]
    simp [folder, short, starts, pieces_hops, pieces, Disk.isDirectoryAt, Node.isDirectory]
    exact passed.trans inside
  simp [Disk.isFile, Disk.node?, Disk.locate, Disk.spot, text, base, starts, pieces,
    Disk.greatestLinkCount, walked, Except.toOption]

theorem run_hopping : run id "updates" (Transfer.worldOf hopping ⟨[], .crash⟩) =
    (.ok .empty, Transfer.worldOf hopping ⟨[], .crash⟩) := by
  have same : (Transfer.worldOf hopping ⟨[], .crash⟩).disk = hopping := rfl
  have listed : hopping.list "updates" = .ok ["updates/far"] := by
    have entries : (hopping.children ["real"]).map (Path.join "updates") = ["updates/far"] := by
      decide
    rw [Disk.list, locate_hopping, ok_bind, ← entries]
    rfl
  rw [run_of_listed id (same ▸ listed)]
  refine congrArg (fun ran => (Except.ok ran.1, ran.2)) (removeFiles_of_none fun path member => ?_)
  obtain rfl := List.mem_singleton.mp member
  exact isFile_hopping

/-- A link to a file of the directory stays, and is not reported, when the file is met before it; in
the other order it goes. And a link that leads to a file stays, and is not reported, when the path
of the directory goes over too many links before it. -/
theorem run_spares_links :
    let near := Transfer.worldOf chained ⟨[], .crash⟩
    let far := Transfer.worldOf hopping ⟨[], .crash⟩
    ("alias" ∈ chained.children ["updates"] ∧ chained.LeadsToFile ["updates"] "alias" ∧
      (run List.reverse "updates" near).1 = .ok ⟨1, []⟩ ∧
      (run List.reverse "updates" near).2.disk.get? ["updates", "alias"] =
        some (.link "stale") ∧
      (run id "updates" near).2.disk.get? ["updates", "alias"] = none) ∧
    hopping.locate "updates" = .ok ["real"] ∧ "far" ∈ hopping.children ["real"] ∧
      hopping.LeadsToFile ["real"] "far" ∧ run id "updates" far = (.ok .empty, far) := by
  intro near far
  have led : chained.LeadsToFile ["updates"] "alias" :=
    .of_isFile_join chained_leads (by decide) isFile_alias_chained
  refine ⟨⟨by decide, led, ?_, ?_, run_chained_in_order⟩,
    locate_hopping, by decide, leadsToFile_hopping, run_hopping⟩
  · rw [run_chained]
  · rw [run_chained]
    rfl

end SelfUpdate.Cleanup
