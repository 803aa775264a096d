import FencedDiff.Except
import FencedDiff.Files.Tree

/-!
# Writing a file

Writing a whole file changes one place of a tree and no directory. The way to the place
leads through directories alone, so the path that was written still names it, and the
content is read back (`read_write`). What stands at any other place is what stood there
before (`wrote_of_write`).
-/

namespace FencedDiff

/-- The error is one of those that are told apart. -/
def FileError.IsKnown (e : FileError) : Prop := ∀ text, e ≠ .other text

namespace FileTree

variable {t : FileTree} {path : String} {place : Location} {content : Bytes}

def CanWrite (t : FileTree) (path : String) : Prop :=
  ∃ content t', t.write path content = .ok t'

/-- The new tree is the old one but for the file at the path, and all of that file is the
content. -/
def Wrote (old new : FileTree) (path : String) (content : Bytes) : Prop :=
  ∃ place, old.locate path = .ok place ∧ new.find? place = some (.file content) ∧
    ∀ other, other ≠ place → new.find? other = old.find? other

theorem write_eq_ok_iff {t' : FileTree} :
    t.write path content = .ok t' ↔
      ∃ place, t.locate path = .ok place ∧ path.endsWith "/" = false ∧
        t.find? place ≠ some .directory ∧ t' = t.put place (.file content) := by
  rw [write, bind_eq_ok_iff]
  refine exists_congr fun place => and_congr_right fun _ => ?_
  constructor
  · intro h
    split at h
    · cases h
    · rename_i haccepted
      rw [Bool.or_eq_true, beq_iff_eq, not_or, Bool.not_eq_true] at haccepted
      exact ⟨haccepted.1, haccepted.2, (Except.ok.inj h).symm⟩
  · rintro ⟨hend, hdirectory, rfl⟩
    rw [if_neg]
    · rfl
    · rw [Bool.or_eq_true, beq_iff_eq, hend]
      simpa using hdirectory

theorem lookup_eq_file_iff :
    t.lookup path = .ok (.file content) ↔
      ∃ place, t.locate path = .ok place ∧ path.endsWith "/" = false ∧
        t.find? place = some (.file content) := by
  rw [lookup, bind_eq_ok_iff]
  refine exists_congr fun place => and_congr_right fun _ => ?_
  cases t.find? place with
  | none => simp [throw, throwThe, MonadExceptOf.throw]
  | some entry =>
      cases entry with
      | directory => simp [pure, Except.pure]
      | file c =>
          cases hend : path.endsWith "/" with
          | true => simp [throw, throwThe, MonadExceptOf.throw]
          | false => simp [pure, Except.pure]

theorem read_eq_ok_iff :
    t.read path = .ok content ↔
      ∃ place, t.locate path = .ok place ∧ path.endsWith "/" = false ∧
        t.find? place = some (.file content) := by
  rw [← lookup_eq_file_iff, read, bind_eq_ok_iff]
  constructor
  · rintro ⟨entry, hentry, h⟩
    cases entry with
    | directory => cases h
    | file c => rw [hentry, Except.ok.inj h]
  · exact fun h => ⟨_, h, rfl⟩

/-- A path of one name leads to a place in the working directory. -/
theorem locate_of_names {name : String} (herror : pathError? path = none)
    (horigin : origin path = []) (hnames : names path = [name])
    (hsize : name.utf8ByteSize ≤ maxName) (hdot : name ≠ ".") (hdots : name ≠ "..") :
    t.locate path = .ok [name] := by
  have hstart : t.find? [] = some .directory := rfl
  have hstep : step [] name = [name] := by
    rw [step, if_neg hdot, if_neg hdots]
    rfl
  rw [locate, herror, horigin, hnames]
  dsimp only
  rw [walk, hstart]
  dsimp only
  rw [if_neg (Nat.not_lt.2 hsize), walk, hstep]

theorem isGiven_of_find?_ne (h : t.find? place ≠ some .directory) : isGiven place = false := by
  rw [find?] at h
  split at h
  · exact absurd rfl h
  · rename_i hgiven
    exact Bool.eq_false_iff.2 hgiven

/-- A walk does not come through a place without directory, so a file that is put there
does not stop it. -/
theorem walk_put_file (h : t.find? place ≠ some .directory) {start goal : Location}
    {names : List String} (hwalk : t.walk start names = .ok goal) :
    (t.put place (.file content)).walk start names = .ok goal := by
  induction names generalizing start with
  | nil => exact hwalk
  | cons name names ih =>
      rw [walk] at hwalk ⊢
      split at hwalk
      · cases hwalk
      · cases hwalk
      · rename_i hdirectory
        have hne : start ≠ place := fun heq => h (heq ▸ hdirectory)
        rw [find?_put_of_ne t _ hne, hdirectory]
        split at hwalk
        · cases hwalk
        · rename_i hname
          exact (if_neg hname).trans (ih hwalk)

theorem locate_put_file (h : t.find? place ≠ some .directory) {goal : Location}
    (hlocate : t.locate path = .ok goal) :
    (t.put place (.file content)).locate path = .ok goal := by
  rw [locate] at hlocate ⊢
  split at hlocate
  · cases hlocate
  · exact walk_put_file h hlocate

theorem read_write {t' : FileTree} (h : t.write path content = .ok t') :
    t'.read path = .ok content := by
  obtain ⟨place, hlocate, hend, hdirectory, rfl⟩ := write_eq_ok_iff.1 h
  exact read_eq_ok_iff.2 ⟨place, locate_put_file hdirectory hlocate, hend,
    find?_put_self t _ (isGiven_of_find?_ne hdirectory)⟩

theorem wrote_of_write {t' : FileTree} (h : t.write path content = .ok t') :
    t.Wrote t' path content := by
  obtain ⟨place, hlocate, _, hdirectory, rfl⟩ := write_eq_ok_iff.1 h
  exact ⟨place, hlocate, find?_put_self t _ (isGiven_of_find?_ne hdirectory),
    fun other hother => find?_put_of_ne t _ hother⟩

/-- Whether a path can be written does not hang on what is written. -/
theorem CanWrite.exists_write (h : t.CanWrite path) (content : Bytes) :
    ∃ t', t.write path content = .ok t' := by
  obtain ⟨_, _, hwrite⟩ := h
  obtain ⟨place, hlocate, hend, hdirectory, _⟩ := write_eq_ok_iff.1 hwrite
  exact ⟨_, write_eq_ok_iff.2 ⟨place, hlocate, hend, hdirectory, rfl⟩⟩

theorem canWrite_of_read (h : t.read path = .ok content) : t.CanWrite path := by
  obtain ⟨place, hlocate, hend, hfind⟩ := read_eq_ok_iff.1 h
  have hdirectory : t.find? place ≠ some .directory := by
    rw [hfind]
    simp
  exact ⟨content, _, write_eq_ok_iff.2 ⟨place, hlocate, hend, hdirectory, rfl⟩⟩

/-! ### What can go wrong -/

section Errors

variable {e : FileError}

theorem isKnown_of_pathError? (h : pathError? path = some e) : e.IsKnown := by
  rintro text rfl
  rw [pathError?] at h
  split at h
  · cases h
  · split at h
    · cases h
    · split at h <;> cases h

theorem isKnown_of_walk {names : List String} (h : t.walk place names = .error e) : e.IsKnown := by
  rintro text rfl
  induction names generalizing place with
  | nil => cases h
  | cons name names ih =>
      rw [walk] at h
      split at h
      · cases h
      · cases h
      · split at h
        · cases h
        · exact ih h

theorem isKnown_of_locate (h : t.locate path = .error e) : e.IsKnown := by
  rw [locate] at h
  split at h
  · rename_i hpath
    rw [← Except.error.inj h]
    exact isKnown_of_pathError? hpath
  · exact isKnown_of_walk h

theorem isKnown_of_write (h : t.write path content = .error e) : e.IsKnown := by
  rw [write] at h
  cases hlocate : t.locate path with
  | error e' =>
      rw [hlocate] at h
      rw [← Except.error.inj h]
      exact isKnown_of_locate hlocate
  | ok place =>
      rw [hlocate] at h
      change (if _ then _ else _) = _ at h
      split at h
      · rintro text rfl
        cases h
      · cases h

theorem isKnown_of_makeDirectories {names : List String}
    (h : (t.makeDirectories place names).2 = .error e) : e.IsKnown := by
  rintro text rfl
  induction names generalizing t place with
  | nil => cases h
  | cons name names ih =>
      rw [makeDirectories] at h
      split at h
      · exact ih h
      · dsimp only at h
        split at h <;> cases h
      · split at h
        · cases h
        · exact ih h

/-- Of the errors that a disk may report, a tree has those that are told apart. -/
theorem isKnown_of_plant (h : (t.plant path content).2 = .error e) : e.IsKnown := by
  rw [plant] at h
  split at h
  · rename_i hparents
    rw [makeParents] at hparents
    split at hparents
    · rename_i hpath
      split at hpath
      · cases hpath
      · rw [← Except.error.inj h, ← Except.error.inj (Prod.mk.inj hparents).2]
        exact isKnown_of_pathError? hpath
    · rw [← Except.error.inj h]
      exact isKnown_of_makeDirectories (congrArg Prod.snd hparents)
  · split at h
    · cases h
    · rename_i hwrite
      rw [← Except.error.inj h]
      exact isKnown_of_write hwrite

end Errors

end FileTree

end FencedDiff
