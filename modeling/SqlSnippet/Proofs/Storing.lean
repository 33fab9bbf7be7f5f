import SqlSnippet.Files.Storage

/-!
# Reading what was written

What a disk stores of a write to a path is read back through that path, and a write leaves alone all
that other places hold and the way to every place that could be reached before.  This holds because
only folders and links are on the way to a place, and no write takes the place of one of them.
-/

namespace SqlSnippet

/-- Some bytes are a text in UTF-8. -/
def IsText (bytes : ByteArray) : Prop := ∃ t : Text, bytes = t.toString.toUTF8

theorem utf8Decode?_eq_some_iff {bytes : ByteArray} {t : Text} :
    bytes.utf8Decode?.map Array.toList = some t ↔ bytes = t.toString.toUTF8 := by
  have hencode : t.toString.toUTF8 = t.utf8Encode := rfl
  rw [hencode]
  constructor
  · intro hdecode
    obtain ⟨chars, hchars, rfl⟩ := Option.map_eq_some_iff.mp hdecode
    have hget := @ByteArray.utf8Encode_get_utf8Decode? bytes (by rw [hchars]; rfl)
    simp only [hchars, Option.get_some] at hget
    exact hget.symm
  · rintro rfl
    rw [List.utf8Decode?_utf8Encode, Option.map_some, List.toList_toArray]

theorem isText_iff {bytes : ByteArray} : IsText bytes ↔ bytes.utf8Decode? ≠ none := by
  simp only [IsText, ← utf8Decode?_eq_some_iff, ← Option.isSome_iff_exists, Option.isSome_map,
    Option.isSome_iff_ne_none]

namespace Storage

variable {s s' : Storage} {path target name : CodeText} {place elsewhere start stop : Place}
  {names : List CodeText} {bytes : ByteArray} {entry : Entry}

theorem entry?_put_self (hplace : place ≠ []) : entry? (s.put place entry) place = some entry := by
  simp [put, entry?, hplace]

theorem entry?_put_of_ne (hne : elsewhere ≠ place) :
    entry? (s.put place entry) elsewhere = s.entry? elsewhere := by
  have hkept : (fun e : Place × Entry => decide ((e.1 != place) = true ∧
      (e.1 == elsewhere) = true)) = fun e => e.1 == elsewhere := by
    funext e
    by_cases he : e.1 = elsewhere
    · simp [he, hne]
    · simp [he]
  have hhead : (place == elsewhere) = false := by simp [Ne.symm hne]
  rw [put, entry?, entry?, List.find?_cons, hhead, List.find?_filter, hkept]

/-- A place where a file is or can be made: nothing on the way to another place. -/
def IsLeaf (s : Storage) (place : Place) : Prop :=
  s.entry? place = none ∨ ∃ bytes, s.entry? place = some (.file bytes)

theorem IsLeaf.ne_nil (h : s.IsLeaf place) : place ≠ [] := by
  rintro rfl
  rcases h with h | ⟨bytes, h⟩ <;> cases h

theorem step_put (hleaf : s.IsLeaf place) (h : s.step start name = .ok stop) :
    (s.put place entry).step start name = .ok stop := by
  have hne : start ≠ place := by
    rintro rfl
    rcases hleaf with hleaf | ⟨bytes, hleaf⟩ <;> simp [step, hleaf] at h
  rw [step, entry?_put_of_ne hne]
  exact h

theorem walk_put (hleaf : s.IsLeaf place) {way : Way} (h : s.walk start names = .ok way) :
    (s.put place (.file bytes)).walk start names = .ok way := by
  induction names generalizing start with
  | nil => exact h
  | cons name names ih =>
      rw [walk] at h ⊢
      cases hstep : s.step start name with
      | error trouble =>
          rw [hstep] at h
          cases h
      | ok next =>
          rw [hstep] at h
          rw [step_put hleaf hstep]
          simp only [bind, Except.bind] at h ⊢
          by_cases hnext : next = place
          · -- the file is no link, and neither was what it takes the place of
            subst hnext
            rw [entry?_put_self hleaf.ne_nil]
            rcases hleaf with hentry | ⟨old, hentry⟩
            · rw [hentry] at h
              exact ih h
            · rw [hentry] at h
              exact ih h
          · rw [entry?_put_of_ne hnext]
            split at h
            · exact h
            · exact ih h

theorem followWithin_put (hleaf : s.IsLeaf place) {links : Nat}
    (h : s.followWithin links start names = .ok stop) :
    (s.put place (.file bytes)).followWithin links start names = .ok stop := by
  induction links generalizing start names with
  | zero =>
      rw [followWithin] at h ⊢
      cases hwalk : s.walk start names with
      | error trouble =>
          rw [hwalk] at h
          cases h
      | ok way =>
          rw [hwalk] at h
          rw [walk_put hleaf hwalk]
          exact h
  | succ links ih =>
      rw [followWithin] at h ⊢
      cases hwalk : s.walk start names with
      | error trouble =>
          rw [hwalk] at h
          cases h
      | ok way =>
          rw [hwalk] at h
          rw [walk_put hleaf hwalk]
          cases way with
          | arrived => exact h
          | link => exact ih h

theorem locate_put (hleaf : s.IsLeaf place) (h : s.locate path = .ok stop) :
    (s.put place (.file bytes)).locate path = .ok stop := by
  rw [locate] at h ⊢
  cases hnames : namesOf path with
  | error trouble =>
      rw [hnames] at h
      cases h
  | ok names =>
      rw [hnames] at h
      exact followWithin_put hleaf h

/-! ## Reading and writing -/

theorem read_eq_ok_iff :
    s.read path = .ok bytes ↔
      ∃ place, s.locate path = .ok place ∧ s.entry? place = some (.file bytes) := by
  rw [read]
  cases hlocate : s.locate path with
  | error trouble => simp [bind, Except.bind]
  | ok place =>
      simp only [bind, Except.bind, Except.ok.injEq, exists_eq_left']
      cases hentry : s.entry? place with
      | none => simp
      | some entry => cases entry <;> simp

theorem has_of_read (h : s.read path = .ok bytes) : s.has path = true := by
  obtain ⟨place, hlocate, hentry⟩ := read_eq_ok_iff.mp h
  simp only [has, find?, hlocate, hentry, Option.isSome_some]

theorem writable_eq_ok_iff :
    s.writable path = .ok place ↔
      s.locate path = .ok place ∧ s.IsLeaf place ∧ s.disk.denial? place = none := by
  rw [writable]
  cases hlocate : s.locate path with
  | error trouble => simp [bind, Except.bind]
  | ok found =>
      have hdeny : refusing path (s.deny found) = .ok place ↔
          found = place ∧ s.disk.denial? found = none := by
        rw [deny]
        cases s.disk.denial? found <;> simp
      simp only [bind, Except.bind, Except.ok.injEq, IsLeaf]
      cases hentry : s.entry? found with
      | none =>
          refine hdeny.trans ⟨?_, ?_⟩
          · rintro ⟨rfl, hallowed⟩
            exact ⟨rfl, Or.inl hentry, hallowed⟩
          · rintro ⟨rfl, -, hallowed⟩
            exact ⟨rfl, hallowed⟩
      | some entry =>
          cases entry with
          | file bytes =>
              refine hdeny.trans ⟨?_, ?_⟩
              · rintro ⟨rfl, hallowed⟩
                exact ⟨rfl, Or.inr ⟨bytes, hentry⟩, hallowed⟩
              · rintro ⟨rfl, -, hallowed⟩
                exact ⟨rfl, hallowed⟩
          | folder | link =>
              refine iff_of_false (by simp) ?_
              rintro ⟨rfl, hleaf | ⟨bytes, hleaf⟩, -⟩ <;> rw [hentry] at hleaf <;> cases hleaf

theorem write_of_not_writable {e : FileError} (h : s.writable path = .error e)
    (bytes : ByteArray) : s.write path bytes = ⟨s, some e⟩ := by
  rw [write, h]

/-- The file at a place was filled with what the disk stores of some bytes. -/
theorem write_of_writable (h : s.writable path = .ok place) (bytes : ByteArray) :
    (s.write path bytes).storage = s.put place (.file (s.disk.stored place bytes)) ∧
      ((s.write path bytes).error = none ↔ s.disk.stopOf? place bytes = none) := by
  rw [write, h]
  exact ⟨rfl, Option.map_eq_none_iff⟩

theorem stored_of_stopOf? {disk : Disk} (h : disk.stopOf? place bytes = none) :
    disk.stored place bytes = bytes := by
  rw [Disk.stored, h]

/-- A file is copied only to another one, and like any write this may store a beginning. -/
theorem copy_of_read (h : s.read path = .ok bytes) (target : CodeText) :
    ((s.copy path target).storage = s ∧ (s.copy path target).error ≠ none) ∨
      ∃ place, s.writable target = .ok place ∧ s.locate path ≠ .ok place ∧
        (s.copy path target).storage = s.put place (.file (s.disk.stored place bytes)) ∧
        ((s.copy path target).error = none ↔ s.disk.stopOf? place bytes = none) := by
  obtain ⟨source, hsource, hentry⟩ := read_eq_ok_iff.mp h
  by_cases hsame : s.isSame path target = true
  · left
    rw [copy, if_pos hsame]
    exact ⟨rfl, Option.some_ne_none _⟩
  rw [copy, if_neg hsame, h]
  cases hwritable : s.writable target with
  | error e => exact Or.inl ⟨rfl, Option.some_ne_none _⟩
  | ok place =>
      refine Or.inr ⟨place, rfl, ?_, rfl, Option.map_eq_none_iff⟩
      rw [hsource]
      rintro ⟨⟩
      obtain ⟨hlocate, -, -⟩ := writable_eq_ok_iff.mp hwritable
      simp [isSame, hsource, hlocate, hentry] at hsame

/-! ## What stays as it was -/

/-- One storage holds what another one does but for the file at a path. -/
structure SameBut (s s' : Storage) (target : CodeText) : Prop where
  elsewhere : ∀ place, s.locate target ≠ .ok place → s'.entry? place = s.entry? place
  reached : ∀ path place, s.locate path = .ok place → s'.locate path = .ok place
  disk : s'.disk = s.disk

theorem SameBut.refl (s : Storage) (target : CodeText) : SameBut s s target :=
  ⟨fun _ _ => rfl, fun _ _ h => h, rfl⟩

theorem sameBut_put (h : s.writable target = .ok place) (bytes : ByteArray) :
    SameBut s (s.put place (.file bytes)) target := by
  obtain ⟨hlocate, hleaf, -⟩ := writable_eq_ok_iff.mp h
  refine ⟨fun elsewhere hne => entry?_put_of_ne ?_, fun path stop => locate_put hleaf, rfl⟩
  rintro rfl
  exact hne hlocate

theorem sameBut_write (s : Storage) (path : CodeText) (bytes : ByteArray) :
    SameBut s (s.write path bytes).storage path := by
  cases h : s.writable path with
  | error e =>
      rw [write_of_not_writable h]
      exact .refl s path
  | ok place =>
      rw [(write_of_writable h bytes).1]
      exact sameBut_put h _

theorem SameBut.entry?_eq (h : SameBut s s' target) (hlocate : s.locate path = .ok place)
    (hne : s.locate target ≠ s.locate path) : s'.entry? place = s.entry? place :=
  h.elsewhere place (hlocate ▸ hne)

theorem SameBut.read_eq (h : SameBut s s' target) (hread : s.read path = .ok bytes)
    (hne : s.locate target ≠ s.locate path) : s'.read path = .ok bytes := by
  obtain ⟨place, hlocate, hentry⟩ := read_eq_ok_iff.mp hread
  exact read_eq_ok_iff.mpr
    ⟨place, h.reached path place hlocate, (h.entry?_eq hlocate hne).trans hentry⟩

theorem SameBut.writable_eq (h : SameBut s s' target) (hlocate : s.locate path = .ok place)
    (hne : s.locate target ≠ s.locate path) : s'.writable path = s.writable path := by
  simp only [writable, deny, h.reached path place hlocate, hlocate, bind, Except.bind,
    h.entry?_eq hlocate hne, h.disk]

theorem read_put (h : s.writable path = .ok place) :
    (s.put place (.file bytes)).read path = .ok bytes := by
  obtain ⟨hlocate, hleaf, -⟩ := writable_eq_ok_iff.mp h
  exact read_eq_ok_iff.mpr ⟨place, locate_put hleaf hlocate, entry?_put_self hleaf.ne_nil⟩

theorem read_write (h : (s.write path bytes).error = none) :
    (s.write path bytes).storage.read path = .ok bytes := by
  cases hwritable : s.writable path with
  | error e =>
      rw [write_of_not_writable hwritable] at h
      cases h
  | ok place =>
      obtain ⟨hstorage, herror⟩ := write_of_writable hwritable bytes
      rw [hstorage, read_put hwritable, stored_of_stopOf? (herror.mp h)]

theorem readText_eq_ok_iff {t : Text} :
    s.readText path = .ok t ↔ s.read path = .ok t.toString.toUTF8 := by
  rw [readText]
  cases hread : s.read path with
  | error e => simp
  | ok bytes =>
      rw [Except.ok.injEq, ← utf8Decode?_eq_some_iff]
      cases hdecode : bytes.utf8Decode? <;> simp [hdecode]

theorem readText_undecodable_iff :
    s.readText path = .error .undecodable ↔ ∃ bytes, s.read path = .ok bytes ∧ ¬ IsText bytes := by
  rw [readText]
  cases hread : s.read path with
  | error e => simp
  | ok bytes =>
      simp only [Except.ok.injEq, exists_eq_left', isText_iff, Classical.not_not]
      cases bytes.utf8Decode? <;> simp

end Storage

end SqlSnippet
