import QtChat.Log.AsyncLog

/-!
# The files of the log

What the log files hold, one after the other, against the lines that were queued. A file is created
under a name that has the time in whole seconds, and `fopen` with `w+` empties a file that is there:
what it held is lost (`Lost`), and nothing brings it back. As long as every new name is new, nothing
is lost (`Whole`).

- `LogFiles`: what creating and appending do to the names and to the contents.
- `LogSys.Moves`: what a step does to the text, if no call fails and an `int` counts each line.
- `Tidy.step`, `Whole.step`, `Lost.step`: the invariants, from the moves.
-/

namespace QtChat

open Interleave

namespace LogFiles

variable {files : LogFiles} {name data : Str}

theorem contents_cons (f : Str × Str) (files : LogFiles) :
    contents (f :: files) = f.2 ++ files.contents := List.flatMap_cons

theorem contents_concat (files : LogFiles) (f : Str × Str) :
    contents (files ++ [f]) = files.contents ++ f.2 := by
  simp [contents]

/-- The file of a name is changed, and there is none. -/
theorem map_of_notMem {g : Str × Str → Str × Str} (h : name ∉ files.map Prod.fst) :
    (files.map fun f => if f.1 = name then g f else f) = files := by
  conv_rhs => rw [← List.map_id' files]
  refine List.map_congr_left fun f hf => if_neg ?_
  rintro rfl
  exact h (List.mem_map_of_mem hf)

theorem append_names (files : LogFiles) (name data : Str) :
    (files.append name data).map Prod.fst = files.map Prod.fst := by
  rw [append, List.map_map]
  refine List.map_congr_left fun f _ => ?_
  rw [Function.comp_apply]
  split <;> rfl

theorem append_last {fs : LogFiles} {c : Str} (h : name ∉ fs.map Prod.fst) :
    append (fs ++ [(name, c)]) name data = fs ++ [(name, c ++ data)] := by
  rw [append, List.map_append, map_of_notMem h, List.map_singleton, if_pos rfl]

/-- Appending adds no more than the data, since the names differ. -/
theorem append_length_le (h : (files.map Prod.fst).Nodup) :
    (files.append name data).contents.length ≤ files.contents.length + data.length := by
  induction files with
  | nil => exact Nat.zero_le _
  | cons f files ih =>
    obtain ⟨hf, hfiles⟩ := List.nodup_cons.mp h
    by_cases he : f.1 = name
    · have hrest : append files name data = files := map_of_notMem (he ▸ hf)
      have hcons : append (f :: files) name data = (f.1, f.2 ++ data) :: append files name data := by
        rw [append, List.map_cons, if_pos he, append]
      rw [hcons, hrest, contents_cons, contents_cons]
      simp only [List.length_append]
      omega
    · have hcons : append (f :: files) name data = f :: append files name data := by
        rw [append, List.map_cons, if_neg he, append]
      have := ih hfiles
      rw [hcons, contents_cons, contents_cons, List.length_append, List.length_append]
      omega

/-- A file of a new name. -/
theorem create_new (h : name ∉ files.map Prod.fst) : files.create name = files ++ [(name, [])] :=
  if_neg h

theorem create_old (h : name ∈ files.map Prod.fst) :
    files.create name = files.map fun f => if f.1 = name then (name, []) else f := if_pos h

theorem create_nodup (h : (files.map Prod.fst).Nodup) : ((files.create name).map Prod.fst).Nodup := by
  by_cases hn : name ∈ files.map Prod.fst
  · have hmap : (files.create name).map Prod.fst = files.map Prod.fst := by
      rw [create_old hn, List.map_map]
      refine List.map_congr_left fun f _ => ?_
      rw [Function.comp_apply]
      split
      · rename_i he
        exact he.symm
      · rfl
    rwa [hmap]
  · rw [create_new hn, List.map_append]
    refine List.nodup_append.mpr ⟨h, List.nodup_cons.mpr ⟨nofun, .nil⟩, ?_⟩
    rintro a ha b hb rfl
    have he : a = name := List.mem_singleton.mp hb
    exact hn (he ▸ ha)

/-- What is emptied holds no more. -/
theorem emptied_length_le (files : LogFiles) (name : Str) :
    (contents (files.map fun f => if f.1 = name then (name, []) else f)).length ≤
      files.contents.length := by
  induction files with
  | nil => exact le_refl _
  | cons f files ih =>
    rw [List.map_cons, contents_cons, contents_cons, List.length_append, List.length_append]
    split
    · exact le_trans (by simpa using ih) (Nat.le_add_left _ _)
    · exact Nat.add_le_add_left ih _

/-- A file that was there is emptied. -/
theorem emptied_length_lt (hn : name ∈ files.map Prod.fst) (hfull : ∀ f ∈ files, f.2 ≠ []) :
    (contents (files.map fun f => if f.1 = name then (name, []) else f)).length <
      files.contents.length := by
  induction files with
  | nil => cases hn
  | cons f files ih =>
    rw [List.map_cons, contents_cons, contents_cons, List.length_append, List.length_append]
    have hf := List.length_pos_iff.mpr (hfull f List.mem_cons_self)
    by_cases he : f.1 = name
    · have := emptied_length_le files name
      rw [if_pos he, List.length_nil]
      omega
    · have hn' : name ∈ files.map Prod.fst := (List.mem_cons.mp hn).resolve_left (Ne.symm he)
      have := ih hn' fun f hf => hfull f (List.mem_cons_of_mem _ hf)
      rw [if_neg he]
      omega

theorem create_length_lt (hn : name ∈ files.map Prod.fst) (hfull : ∀ f ∈ files, f.2 ≠ []) :
    (files.create name).contents.length < files.contents.length := by
  rw [create_old hn]
  exact emptied_length_lt hn hfull

theorem create_length_le (files : LogFiles) (name : Str) :
    (files.create name).contents.length ≤ files.contents.length := by
  by_cases hn : name ∈ files.map Prod.fst
  · rw [create_old hn]
    exact emptied_length_le files name
  · rw [create_new hn, contents_concat, List.append_nil]

end LogFiles

/-- No call fails: `fopen` opens, and `fwrite` takes something. -/
def LogLabel.Succeeds : LogLabel → Prop
  | .roll ok => ok = true
  | .fwrite n => 0 < n
  | _ => True

/-- An `int` counts the bytes of the line that is queued. -/
def LogLabel.Short (cfg : LogConfig) : LogLabel → Prop
  | .output c => ∀ strLine, cfg.line c = some strLine → strLine.length < 2 ^ 31
  | .outputBinary dump => (txt "address[" ++ dump).length < 2 ^ 31
  | _ => True

/-- What is not yet written of the line that the writer has. -/
def Writer.rest : Writer → Str
  | .writing _ strLocal => strLocal
  | _ => []

namespace LogSys

/-- A file that is created has a new name. -/
def NewName (cfg : LogConfig) : LogLabel → LogSys → Prop
  | .roll _, s => s.NeedsFile cfg → cfg.newFileName s.now ∉ s.files.map Prod.fst
  | _, _ => True


/-- The queue is empty, and the writer has no line. -/
structure Drained (s : LogSys) : Prop where
  queue : s.m_listLinesToWrite = []
  writer : ∀ strLine strLocal, s.writer ≠ .writing strLine strLocal

/-- No file changes; the writer goes on with its file, or does not go on. -/
structure Calm (s s' : LogSys) : Prop where
  files : s'.files = s.files
  handle : s'.m_hLogFile = s.m_hLogFile ∨ s'.writer = .finished ∧ s'.m_hLogFile = none
  goes : s'.writer = .finished ∨ s.writer ≠ .finished ∧
    (s'.writer = .top ↔ s.writer = .top) ∨ s.writer = .top ∧ s'.writer ≠ .top ∧ s.m_hLogFile ≠ none

/-- What a step does to the lines, to the files and to what the writer has of a line. -/
inductive Moves (cfg : LogConfig) (l : LogLabel) (s s' : LogSys) : Prop
  | queue (strLine : Str) : strLine ≠ [] → strLine.length < 2 ^ 31 → s.Calm s' →
      s'.m_listLinesToWrite = s.m_listLinesToWrite ++ [strLine] →
      s'.queued = s.queued ++ [strLine] → s'.writer.rest = s.writer.rest → Moves cfg l s s'
  | take (strLine : Str) : s.Calm s' → s.writer.rest = [] →
      s.m_listLinesToWrite = strLine :: s'.m_listLinesToWrite → s'.queued = s.queued →
      s'.writer = .writing strLine strLine → Moves cfg l s s'
  | create (ok : Bool) : l = .roll ok → s.writer = .top → s.NeedsFile cfg → s'.writer = .lock →
      s'.m_hLogFile = some (cfg.newFileName s.now) →
      s'.files = s.files.create (cfg.newFileName s.now) →
      s'.m_listLinesToWrite = s.m_listLinesToWrite → s'.queued = s.queued → Moves cfg l s s'
  | write (n : Nat) : 0 < n → n ≤ s.writer.rest.length → s.writer ≠ .top → s.writer ≠ .finished →
      s'.files = (s.store (s.writer.rest.take n)).files → s'.m_hLogFile = s.m_hLogFile →
      s'.writer.rest = s.writer.rest.drop n →
      s'.m_listLinesToWrite = s.m_listLinesToWrite → s'.queued = s.queued → Moves cfg l s s'
  | idle : s.Calm s' → s'.writer.rest = s.writer.rest → s'.m_listLinesToWrite = s.m_listLinesToWrite →
      s'.queued = s.queued → Moves cfg l s s'

/-- The names of the files differ, and the lines that are not written are short. -/
structure Tidy (s : LogSys) : Prop where
  names : (s.files.map Prod.fst).Nodup
  lines : ∀ strLine ∈ s.m_listLinesToWrite, strLine ≠ [] ∧ strLine.length < 2 ^ 31
  rest : s.writer.rest.length < 2 ^ 31

/-- The files and what is not yet written are what was queued. -/
structure Whole (s : LogSys) : Prop where
  text : s.files.contents ++ s.writer.rest ++ s.m_listLinesToWrite.flatten = s.queued.flatten
  /-- The open file is the last one. -/
  current : ∀ name, s.m_hLogFile = some name → ∃ fs c, s.files = fs ++ [(name, c)]
  /-- Only the open file may be empty, and not when the writer is through with a line. -/
  full : s.writer ≠ .finished → ∀ f ∈ s.files, f.2 = [] →
    s.writer ≠ .top ∧ s.m_hLogFile = some f.1
  opened : s.writer ≠ .finished → s.writer ≠ .top → s.m_hLogFile ≠ none

/-- Something that was queued is in no file and will be in none. -/
def Lost (s : LogSys) : Prop :=
  s.files.contents.length + s.writer.rest.length + s.m_listLinesToWrite.flatten.length <
    s.queued.flatten.length

variable {cfg : LogConfig} {l : LogLabel} {s s' : LogSys}

/-! ## What a step does -/

theorem toInt32_of_lt {n : Nat} (h : n < 2 ^ 31) : toInt32 n = n :=
  Int.bmod_eq_of_le (by omega) (by omega)

/-- A short line loses what `fwrite` has taken. -/
theorem erased_eq {strLocal : Str} {n : Nat} (h : strLocal.length < 2 ^ 31)
    (hn : n ≤ strLocal.length) : erased strLocal (toInt32 n) = strLocal.drop n := by
  rw [erased, toInt32_of_lt h, toInt32_of_lt (hn.trans_lt h), if_pos (by exact_mod_cast hn)]
  rfl

theorem line_ne_nil {c : LogCall} {strLine : Str} (hfile : cfg.m_strFileName ≠ [])
    (h : cfg.line c = some strLine) : strLine ≠ [] := by
  unfold LogConfig.line at h
  rw [if_pos hfile] at h
  split at h
  · cases h
  · rw [← Option.some.inj h]
    exact List.append_ne_nil_of_right_ne_nil _ (by decide)

theorem rest_of_drained (h : s.Drained) : s.writer.rest = [] := by
  cases hw : s.writer with
  | writing strLine strLocal => exact absurd hw (h.writer _ _)
  | _ => rfl

theorem wake_rest (w : Writer) : (wake w).rest = w.rest := by
  cases w <;> rfl

/-- The writer is where it was, or was woken. -/
theorem calm_of_writer (hw : s'.writer = s.writer ∨ s'.writer = wake s.writer)
    (hfiles : s'.files = s.files) (hh : s'.m_hLogFile = s.m_hLogFile) : s.Calm s' := by
  refine ⟨hfiles, .inl hh, ?_⟩
  rcases hw with hw | hw
  · rw [hw]
    by_cases hf : s.writer = .finished
    · exact .inl hf
    · exact .inr (.inl ⟨hf, Iff.rfl⟩)
  · rw [hw]
    cases s.writer <;> simp [wake]

theorem push_moves {strLine : Str} (hne : strLine ≠ []) (hshort : strLine.length < 2 ^ 31) :
    Moves cfg l s (s.push strLine) :=
  .queue strLine hne hshort (calm_of_writer (.inr rfl) rfl rfl) rfl rfl (wake_rest _)

/-- The writer tests the queue. -/
theorem test_moves (hfile : cfg.m_strFileName ≠ []) (hw : s.writer = .lock) :
    Moves cfg l s (s.test cfg) := by
  cases hq : s.m_listLinesToWrite with
  | nil =>
    have ht : s.test cfg = { s with writer := if s.m_bExit then .finished else .checked } := by
      rw [test, hq]
    rw [ht]
    refine .idle ⟨rfl, .inl rfl, ?_⟩ ?_ rfl rfl
    · cases s.m_bExit <;> simp [hw]
    · cases s.m_bExit <;> simp [hw, Writer.rest]
  | cons strLine lines =>
    have ht : s.test cfg =
        { s with m_listLinesToWrite := lines, writer := .writing strLine strLine } := by
      rw [test, hq]
      dsimp only
      rw [if_pos hfile]
    rw [ht]
    refine .take strLine ⟨rfl, .inl rfl, ?_⟩ ?_ hq rfl rfl
    · simp [hw]
    · simp [hw, Writer.rest]

/-- A turn of `writeToFile`. -/
theorem fwrite_moves {strLine strLocal : Str} {n : Nat} (hw : s.writer = .writing strLine strLocal)
    (hshort : strLocal.length < 2 ^ 31) (hpos : 0 < n) (hn : n ≤ strLocal.length) :
    Moves cfg l s (s.fwrite strLine strLocal n) := by
  have hrest : s.writer.rest = strLocal := by rw [hw, Writer.rest]
  have hint : ¬ toInt32 n ≤ 0 := by
    rw [toInt32_of_lt (hn.trans_lt hshort)]
    omega
  rw [fwrite, if_neg hint, erased_eq hshort hn]
  split
  · rename_i hall
    refine .write n hpos (hrest ▸ hn) ?_ ?_ ?_ rfl ?_ rfl rfl
    · simp [hw]
    · simp [hw]
    · rw [hrest]
    · rw [hrest, hall]
      rfl
  · refine .write n hpos (hrest ▸ hn) ?_ ?_ ?_ rfl ?_ rfl rfl
    · simp [hw]
    · simp [hw]
    · rw [hrest]
    · rw [hrest]
      rfl

/-- **What a step does**, if no call fails and the lines are short. -/
theorem step_moves (hfile : cfg.m_strFileName ≠ []) (hok : l.Succeeds) (hshort : l.Short cfg)
    (h : s.Tidy) (hs : step cfg l s = some s') : Moves cfg l s s' := by
  cases l with
  | output c =>
    obtain ⟨-, hs⟩ := Option.ite_none_left_eq_some.mp hs
    cases hs
    cases hc : cfg.line c with
    | none => exact .idle (calm_of_writer (.inl rfl) rfl rfl) rfl rfl rfl
    | some strLine => exact push_moves (line_ne_nil hfile hc) (hshort strLine hc)
  | outputBinary dump =>
    obtain ⟨-, hs⟩ := Option.ite_none_left_eq_some.mp hs
    cases hs
    exact push_moves (List.append_ne_nil_of_left_ne_nil (by decide) _) hshort
  | roll ok =>
    obtain ⟨hw, hs⟩ := Option.ite_none_right_eq_some.mp hs
    obtain rfl : ok = true := hok
    by_cases hn : s.NeedsFile cfg
    · rw [roll, if_pos hn, if_pos rfl] at hs
      cases hs
      exact .create true rfl hw hn rfl rfl rfl rfl rfl
    · rw [roll, if_neg hn] at hs
      cases hs
      have hopen : s.m_hLogFile ≠ none := fun h => hn ⟨hfile, .inl h⟩
      refine .idle ⟨rfl, .inl rfl, .inr (.inr ⟨hw, nofun, hopen⟩)⟩ ?_ rfl rfl
      rw [hw]
      rfl
  | test =>
    obtain ⟨hw, hs⟩ := Option.ite_none_right_eq_some.mp hs
    cases hs
    exact test_moves hfile hw
  | wait =>
    obtain ⟨hw, hs⟩ := Option.ite_none_right_eq_some.mp hs
    cases hs
    refine .idle ⟨rfl, .inl rfl, ?_⟩ ?_ rfl rfl
    · simp [hw]
    · rw [hw]
      rfl
  | spurious =>
    obtain ⟨hw, hs⟩ := Option.ite_none_right_eq_some.mp hs
    cases hs
    refine .idle (calm_of_writer (.inr ?_) rfl rfl) ?_ rfl rfl
    · rw [hw]
      rfl
    · rw [hw]
      rfl
  | fwrite n =>
    rw [step] at hs
    split at hs
    · rename_i strLine strLocal hw
      obtain ⟨hn, hs⟩ := Option.ite_none_right_eq_some.mp hs
      rw [← Option.some.inj hs]
      have hrest := h.rest
      rw [hw] at hrest
      exact fwrite_moves hw hrest hok hn
    · cases hs
  | setExit =>
    obtain ⟨-, hs⟩ := Option.ite_none_right_eq_some.mp hs
    cases hs
    exact .idle (calm_of_writer (.inl rfl) rfl rfl) rfl rfl rfl
  | notify =>
    obtain ⟨-, hs⟩ := Option.ite_none_right_eq_some.mp hs
    cases hs
    exact .idle (calm_of_writer (.inr rfl) rfl rfl) (wake_rest _) rfl rfl
  | join =>
    obtain ⟨hu, hs⟩ := Option.ite_none_right_eq_some.mp hs
    cases hs
    exact .idle ⟨rfl, .inr ⟨hu.2, rfl⟩, .inl hu.2⟩ rfl rfl rfl
  | tick seconds =>
    cases hs
    exact .idle (calm_of_writer (.inl rfl) rfl rfl) rfl rfl rfl

/-! ## What is kept -/

/-- What the open file is for. -/
theorem Whole.calm {s s' : LogSys} (h : s.Whole) (hc : s.Calm s')
    (htext : s'.files.contents ++ s'.writer.rest ++ s'.m_listLinesToWrite.flatten =
      s'.queued.flatten) : s'.Whole where
  text := htext
  current := by
    intro name hname
    rw [hc.files]
    rcases hc.handle with hh | ⟨-, hh⟩
    · exact h.current name (hh ▸ hname)
    · rw [hh] at hname
      cases hname
  full := by
    intro hf f hmem he
    rw [hc.files] at hmem
    rcases hc.goes with hfin | ⟨hlive, htop⟩ | ⟨htop, hntop, hopen⟩
    · exact absurd hfin hf
    · obtain ⟨hw, hh⟩ := h.full hlive f hmem he
      exact ⟨mt htop.mp hw, (hc.handle.resolve_right fun e => hf e.1).trans hh⟩
    · exact absurd htop (h.full (by rw [htop]; nofun) f hmem he).1
  opened := by
    intro hf hw
    rw [hc.handle.resolve_right fun e => hf e.1]
    rcases hc.goes with hfin | ⟨hlive, htop⟩ | ⟨htop, hntop, hopen⟩
    · exact absurd hfin hf
    · exact h.opened hlive (mt htop.mpr hw)
    · exact hopen

theorem store_files {name : Str} (h : s.m_hLogFile = some name) (data : Str) :
    (s.store data).files = s.files.append name data := by
  rw [store, h]
  rfl

theorem store_names (s : LogSys) (data : Str) :
    (s.store data).files.map Prod.fst = s.files.map Prod.fst := by
  rw [store]
  cases s.m_hLogFile with
  | none => rfl
  | some name => exact LogFiles.append_names _ _ _

theorem store_length_le (h : (s.files.map Prod.fst).Nodup) (data : Str) :
    (s.store data).files.contents.length ≤ s.files.contents.length + data.length := by
  rw [store]
  cases s.m_hLogFile with
  | none => exact Nat.le_add_right _ _
  | some name => exact LogFiles.append_length_le h

/-- **Every move** keeps the names apart and the lines short. -/
theorem Tidy.moves (h : s.Tidy) (hm : Moves cfg l s s') : s'.Tidy := by
  cases hm with
  | queue strLine hne hshort hc hq hall hr =>
    refine ⟨hc.files ▸ h.names, fun line hl => ?_, hr ▸ h.rest⟩
    rw [hq] at hl
    rcases List.mem_append.mp hl with hl | hl
    · exact h.lines line hl
    · rw [List.mem_singleton.mp hl]
      exact ⟨hne, hshort⟩
  | take strLine hc hr hq hall hw =>
    refine ⟨hc.files ▸ h.names, fun line hl => ?_, ?_⟩
    · exact h.lines line (hq ▸ List.mem_cons_of_mem _ hl)
    · rw [hw]
      exact (h.lines strLine (hq ▸ List.mem_cons_self)).2
  | create ok hl hw hn hw' hh hf hq hall =>
    refine ⟨hf ▸ LogFiles.create_nodup h.names, hq ▸ h.lines, ?_⟩
    rw [hw']
    exact Nat.two_pow_pos 31
  | write n hpos hle htop hfin hf hh hr hq hall =>
    refine ⟨?_, hq ▸ h.lines, ?_⟩
    · rw [hf, store_names]
      exact h.names
    · rw [hr, List.length_drop]
      exact (Nat.sub_le _ _).trans_lt h.rest
  | idle hc hr hq hall => exact ⟨hc.files ▸ h.names, hq ▸ h.lines, hr ▸ h.rest⟩

/-- `fwrite` moves text from the line to the end of the last file. -/
theorem Whole.write {n : Nat} (h : s.Whole) (ht : s.Tidy) (hpos : 0 < n)
    (hle : n ≤ s.writer.rest.length) (htop : s.writer ≠ .top) (hfin : s.writer ≠ .finished)
    (hf : s'.files = (s.store (s.writer.rest.take n)).files) (hh : s'.m_hLogFile = s.m_hLogFile)
    (hr : s'.writer.rest = s.writer.rest.drop n)
    (hq : s'.m_listLinesToWrite = s.m_listLinesToWrite) (hall : s'.queued = s.queued) :
    s'.Whole := by
  obtain ⟨name, hname⟩ := Option.ne_none_iff_exists'.mp (h.opened hfin htop)
  obtain ⟨fs, c, hfs⟩ := h.current name hname
  have hnew : name ∉ fs.map Prod.fst := by
    have hnd := ht.names
    rw [hfs, List.map_append, List.nodup_append] at hnd
    exact fun hin => hnd.2.2 name hin name (List.mem_singleton.mpr rfl) rfl
  have hfs' : s'.files = fs ++ [(name, c ++ s.writer.rest.take n)] := by
    rw [hf, store_files hname, hfs, LogFiles.append_last hnew]
  have htake : s.writer.rest.take n ≠ [] := by
    rw [← List.length_pos_iff, List.length_take]
    omega
  refine ⟨?_, fun name' hname' => ?_, fun _ f hmem he => ?_, fun _ _ => by rw [hh, hname]; nofun⟩
  · rw [hfs', hr, hq, hall, ← h.text, hfs, LogFiles.contents_concat, LogFiles.contents_concat]
    dsimp only
    conv_rhs => rw [← List.take_append_drop n s.writer.rest]
    simp only [List.append_assoc]
  · obtain rfl : name = name' := Option.some.inj (hname.symm.trans (hh.symm.trans hname'))
    exact ⟨fs, _, hfs'⟩
  · -- the open file got something, and the others were not empty
    rw [hfs'] at hmem
    rcases List.mem_append.mp hmem with hmem | hmem
    · have hin : f ∈ s.files := by
        rw [hfs]
        exact List.mem_append_left _ hmem
      have hcur := (h.full hfin f hin he).2
      rw [hname] at hcur
      exact absurd (Option.some.inj hcur ▸ List.mem_map_of_mem hmem) hnew
    · rw [List.mem_singleton.mp hmem] at he
      exact absurd (List.append_eq_nil_iff.mp he).2 htake

/-- A new file is the last one. -/
theorem Whole.create {name : Str} (h : s.Whole) (hw : s.writer = .top)
    (hnew : name ∉ s.files.map Prod.fst) (hw' : s'.writer = .lock)
    (hh : s'.m_hLogFile = some name) (hf : s'.files = s.files.create name)
    (hq : s'.m_listLinesToWrite = s.m_listLinesToWrite) (hall : s'.queued = s.queued) :
    s'.Whole := by
  rw [LogFiles.create_new hnew] at hf
  refine ⟨?_, fun name' hname' => ?_, fun _ f hmem he => ?_, fun _ _ => by rw [hh]; nofun⟩
  · rw [hf, hq, hall, hw', ← h.text, hw, LogFiles.contents_concat, List.append_nil]
    rfl
  · obtain rfl : name = name' := Option.some.inj (hh.symm.trans hname')
    exact ⟨s.files, [], hf⟩
  · refine ⟨by rw [hw']; nofun, ?_⟩
    rw [hf] at hmem
    rcases List.mem_append.mp hmem with hmem | hmem
    · exact absurd hw (h.full (by rw [hw]; nofun) f hmem he).1
    · rw [List.mem_singleton.mp hmem, hh]

/-- **Every move** that creates no file under an old name keeps the text. -/
theorem Whole.moves (h : s.Whole) (ht : s.Tidy) (hm : Moves cfg l s s') (hnew : NewName cfg l s) :
    s'.Whole := by
  cases hm with
  | queue strLine hne hshort hc hq hall hr =>
    refine h.calm hc ?_
    rw [hc.files, hr, hq, hall, List.flatten_append, List.flatten_append, ← h.text,
      List.append_assoc _ _ [strLine].flatten]
  | take strLine hc hr hq hall hw =>
    refine h.calm hc ?_
    have htext := h.text
    rw [hr, hq, List.flatten_cons, List.append_nil] at htext
    rw [hc.files, hw, hall, ← htext, List.append_assoc]
    rfl
  | create ok hl hw hn hw' hh hf hq hall =>
    subst hl
    exact h.create hw (hnew hn) hw' hh hf hq hall
  | write n hpos hle htop hfin hf hh hr hq hall =>
    exact h.write ht hpos hle htop hfin hf hh hr hq hall
  | idle hc hr hq hall =>
    refine h.calm hc ?_
    rw [hc.files, hr, hq, hall]
    exact h.text

/-- **Every move** keeps a loss. -/
theorem Lost.moves (h : s.Lost) (ht : s.Tidy) (hm : Moves cfg l s s') : s'.Lost := by
  unfold Lost at h ⊢
  cases hm with
  | queue strLine hne hshort hc hq hall hr =>
    rw [hc.files, hr, hq, hall, List.flatten_append, List.flatten_append, List.length_append,
      List.length_append]
    omega
  | take strLine hc hr hq hall hw =>
    rw [hr, hq, List.flatten_cons, List.length_append] at h
    rw [hc.files, hw, hall, Writer.rest]
    simp only [List.length_nil] at h
    omega
  | create ok hl hw hn hw' hh hf hq hall =>
    have := LogFiles.create_length_le s.files (cfg.newFileName s.now)
    rw [hw, Writer.rest] at h
    rw [hf, hw', hq, hall, Writer.rest]
    · omega
    · nofun
    · nofun
  | write n hpos hle htop hfin hf hh hr hq hall =>
    have := store_length_le ht.names (s.writer.rest.take n)
    rw [List.length_take] at this
    rw [hf, hr, hq, hall, List.length_drop]
    omega
  | idle hc hr hq hall =>
    rw [hc.files, hr, hq, hall]
    exact h

/-- A file that is created under an old name loses what that file held. -/
theorem Whole.old_name (h : s.Whole) (hok : l.Succeeds) (hs : step cfg l s = some s')
    (hold : ¬ NewName cfg l s) : s'.Lost := by
  cases l with
  | roll ok =>
    obtain rfl : ok = true := hok
    obtain ⟨hw, hs⟩ := Option.ite_none_right_eq_some.mp hs
    obtain ⟨hn, hin⟩ := Classical.not_imp.mp hold
    have hfull : ∀ f ∈ s.files, f.2 ≠ [] := fun f hmem he =>
      (h.full (by rw [hw]; nofun) f hmem he).1 hw
    have := LogFiles.create_length_lt (not_not.mp hin) hfull
    rw [roll, if_pos hn, if_pos rfl] at hs
    cases hs
    rw [Lost, ← h.text, hw]
    simp only [Writer.rest, List.length_append, List.length_nil]
    omega
  | _ => exact absurd trivial hold

theorem started_tidy (now : Nat) : (started now).Tidy :=
  ⟨List.nodup_nil, nofun, Nat.two_pow_pos 31⟩

theorem started_whole (now : Nat) : (started now).Whole :=
  ⟨rfl, nofun, nofun, fun _ h => absurd rfl h⟩

end LogSys

open LogSys in
/-- **No line is lost by rolling**, whatever is logged, by any threads, in any interleaving with the
writer: once the queue is drained the files hold all that was queued, in its order, exactly if every
file was created under a new name. -/
theorem no_line_lost_iff {cfg : LogConfig} {now : Nat} {ls : List LogLabel} {s : LogSys}
    (hfile : cfg.m_strFileName ≠ []) (hok : ∀ l ∈ ls, l.Succeeds) (hshort : ∀ l ∈ ls, l.Short cfg)
    (hr : (logMachine cfg).runs ls (LogSys.started now) = some s) (hd : s.Drained) :
    s.files.contents = s.queued.flatten ↔
      ∀ l s₁, (logMachine cfg).Takes ls (LogSys.started now) l s₁ → LogSys.NewName cfg l s₁ := by
  have hstep : ∀ (l : LogLabel) (s₀ s₁ : LogSys), l.Succeeds ∧ l.Short cfg → s₀.Tidy ∧ s₀.Whole →
      step cfg l s₀ = some s₁ →
      (NewName cfg l s₀ → s₁.Tidy ∧ s₁.Whole) ∧ (¬ NewName cfg l s₀ → s₁.Tidy ∧ s₁.Lost) := by
    rintro l s₀ s₁ ⟨hl, hl'⟩ ⟨ht, hw⟩ hs
    have hm := step_moves hfile hl hl' ht hs
    refine ⟨fun hn => ⟨ht.moves hm, hw.moves ht hm hn⟩, fun hn => ⟨ht.moves hm, ?_⟩⟩
    exact hw.old_name hl hs hn
  have hkeep : ∀ (l : LogLabel) (s₀ s₁ : LogSys), l.Succeeds ∧ l.Short cfg → s₀.Tidy ∧ s₀.Lost →
      step cfg l s₀ = some s₁ → s₁.Tidy ∧ s₁.Lost := by
    rintro l s₀ s₁ ⟨hl, hl'⟩ ⟨ht, hlost⟩ hs
    have hm := step_moves hfile hl hl' ht hs
    exact ⟨ht.moves hm, hlost.moves ht hm⟩
  have hends := Machine.runs_split (M := logMachine cfg) (Q := NewName cfg) hstep hkeep
    (fun l hl => ⟨hok l hl, hshort l hl⟩) ⟨started_tidy now, started_whole now⟩ hr
  have hrest := rest_of_drained hd
  rcases hends with ⟨hnew, -, hw⟩ | ⟨⟨l, s₁, ht, hold⟩, -, hlost⟩
  · refine iff_of_true ?_ hnew
    have htext := hw.text
    rwa [hrest, hd.queue, List.flatten_nil, List.append_nil, List.append_nil] at htext
  · refine iff_of_false (fun he => ?_) fun hnew => hold (hnew l s₁ ht)
    unfold Lost at hlost
    rw [hrest, hd.queue, he] at hlost
    exact absurd hlost (lt_irrefl _)

/-- A log in the file `chat`, rolled at 10 bytes; the time is printed as its number. -/
def LogConfig.small : LogConfig :=
  ⟨txt "chat", txt "00042", 10, .info, false, fun now => decimal now⟩

/-- A line at level INFO. -/
def LogCall.hello : LogCall := ⟨.info, none, txt "hello", txt "[12:00:00]", txt "1"⟩

/-- Two lines, a second apart; the second one is written in two turns. -/
def LogLabel.twoLines : List LogLabel :=
  [.roll true, .output .hello, .test, .fwrite 25, .tick 1, .roll true, .output .hello, .test,
    .fwrite 20, .fwrite 5]

/-- They are in two files. -/
theorem no_line_lost_two : ∃ s : LogSys, s.files.length = 2 ∧ (s.files.contents = s.queued.flatten ↔
    ∀ l s₁, (logMachine .small).Takes LogLabel.twoLines (LogSys.started 0) l s₁ →
      LogSys.NewName .small l s₁) := by
  have hend : ((logMachine .small).runs LogLabel.twoLines (.started 0)).map
      (fun s : LogSys => (s.m_listLinesToWrite, s.writer, s.files.length)) = some ([], .top, 2) := by
    decide
  have hline : (LogConfig.small.line .hello).map List.length = some 25 := by decide
  have hshort : LogLabel.Short .small (.output .hello) := by
    intro strLine h
    rw [h] at hline
    rw [Option.some.inj hline]
    decide
  obtain ⟨s, hr, hf⟩ := Option.map_eq_some_iff.mp hend
  simp only [Prod.mk.injEq] at hf
  have hd : s.Drained := ⟨hf.1, fun _ _ h => by rw [hf.2.1] at h; cases h⟩
  refine ⟨s, hf.2.2, no_line_lost_iff (by decide) ?_ ?_ hr hd⟩
  · simp [LogLabel.twoLines, LogLabel.Succeeds]
  · simp only [LogLabel.twoLines, List.forall_mem_cons]
    exact ⟨trivial, hshort, trivial, trivial, trivial, trivial, hshort, trivial, trivial, trivial,
      nofun⟩

/-- A line that fills its file, and the next file. -/
def LogLabel.oneSecond : List LogLabel :=
  [.roll true, .output .hello, .test, .fwrite 25, .roll true]

/-- The second file is created in the second in which the first one was, and empties it. -/
theorem no_line_lost_truncated :
    ¬∀ (cfg : LogConfig) (now : Nat) (ls : List LogLabel) (s : LogSys), cfg.m_strFileName ≠ [] →
      0 < cfg.m_nFileRollSize → (∀ l ∈ ls, l.Succeeds) →
      (logMachine cfg).runs ls (LogSys.started now) = some s → s.Drained →
      s.files.contents = s.queued.flatten := by
  intro hall
  have hend : ((logMachine .small).runs LogLabel.oneSecond (.started 0)).map (fun s : LogSys =>
      (s.m_listLinesToWrite, s.writer, s.files.contents, s.queued.flatten.length)) =
        some ([], .lock, [], 25) := by
    decide
  have hok : ∀ l ∈ LogLabel.oneSecond, l.Succeeds := by
    simp [LogLabel.oneSecond, LogLabel.Succeeds]
  obtain ⟨s, hr, hf⟩ := Option.map_eq_some_iff.mp hend
  simp only [Prod.mk.injEq] at hf
  have hd : s.Drained := ⟨hf.1, fun _ _ h => by rw [hf.2.1] at h; cases h⟩
  have hcontents := hall .small 0 _ s (by decide) (by decide) hok hr hd
  have hlen := hf.2.2.2
  rw [← hcontents, hf.2.2.1] at hlen
  cases hlen

end QtChat
