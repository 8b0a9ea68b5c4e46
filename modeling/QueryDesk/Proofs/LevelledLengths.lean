import Mathlib.Data.List.Chain
import QueryDesk.Layout.Levelling

/-!
# The lengths of a levelled row add up

A row that is too long for its room is cut down at its peaks. As neighbouring runs differ, some run
stands out as long as the row is not empty; lowering it saves what it costs, and the last run to be
lowered shares what is left of it without a remainder. So a row of parts of which one takes the rest
fills its room exactly, however small the room is.
-/
namespace QueryDesk.Layout

open Number (total total_nil total_cons total_append roundHalfUp)

variable {before after runs : List Run} {run : Run} {found : List Peak} {peak : Peak}
  {missing room : Nat}

/-- Runs of at least one part each, of which no two neighbours have one level. -/
structure Uneven (runs : List Run) : Prop where
  pos : ∀ run ∈ runs, 0 < run.count
  chain : runs.IsChain fun run next => run.level ≠ next.level

theorem lengthsOf_cons (run : Run) (runs : List Run) :
    lengthsOf (run :: runs) = List.replicate run.count run.level ++ lengthsOf runs := rfl

theorem lengthsOf_append (front back : List Run) :
    lengthsOf (front ++ back) = lengthsOf front ++ lengthsOf back := List.flatMap_append

theorem lengthsOf_consRun (run : Run) (runs : List Run) :
    lengthsOf (consRun run runs) = lengthsOf (run :: runs) := by
  cases runs with
  | nil => rfl
  | cons next rest =>
    by_cases hlevel : run.level = next.level
    · simp only [consRun, hlevel, if_true, lengthsOf_cons, List.replicate_add, List.append_assoc]
    · simp [consRun, hlevel]

theorem total_replicate (count length : Nat) :
    total (List.replicate count length) = count * length := List.sum_replicate_nat

theorem total_around (before : List Run) (run : Run) (after : List Run) :
    total (lengthsOf (before ++ run :: after)) =
      total (lengthsOf before) + (run.count * run.level + total (lengthsOf after)) := by
  rw [lengthsOf_append, lengthsOf_cons, total_append, total_append, total_replicate]

theorem length_around (before : List Run) (run : Run) (after : List Run) :
    (lengthsOf (before ++ run :: after)).length =
      (lengthsOf before).length + (run.count + (lengthsOf after).length) := by
  rw [lengthsOf_append, lengthsOf_cons, List.length_append, List.length_append,
    List.length_replicate]

/-- The runs of a row have the lengths of the row. -/
theorem lengthsOf_runsOf (lengths : List Nat) : lengthsOf (runsOf lengths) = lengths := by
  induction lengths with
  | nil => rfl
  | cons length lengths ih =>
    change lengthsOf (consRun ⟨1, length⟩ (runsOf lengths)) = _
    rw [lengthsOf_consRun, lengthsOf_cons, ih]
    rfl

theorem uneven_consRun (h : Uneven runs) (hrun : 0 < run.count) : Uneven (consRun run runs) := by
  obtain ⟨hpos, hchain⟩ := h
  cases runs with
  | nil => exact ⟨by simpa [consRun] using hrun, by simp [consRun]⟩
  | cons next rest =>
    obtain ⟨hnext, hrest⟩ := List.forall_mem_cons.1 hpos
    by_cases hlevel : run.level = next.level
    · simp only [consRun, hlevel, if_true]
      refine ⟨List.forall_mem_cons.2 ⟨Nat.add_pos_left hrun _, hrest⟩, ?_⟩
      cases rest with
      | nil => simp
      | cons third rest =>
        obtain ⟨hthird, hlater⟩ := List.isChain_cons_cons.1 hchain
        exact List.isChain_cons_cons.2 ⟨hthird, hlater⟩
    · simp only [consRun, hlevel, if_false]
      exact ⟨List.forall_mem_cons.2 ⟨hrun, hpos⟩, List.isChain_cons_cons.2 ⟨hlevel, hchain⟩⟩

theorem uneven_runsOf (lengths : List Nat) : Uneven (runsOf lengths) := by
  induction lengths with
  | nil => exact ⟨by simp [runsOf], by simp [runsOf]⟩
  | cons length lengths ih => exact uneven_consRun ih Nat.one_pos

/-! ### Peaks -/

/-- A peak is a run of the row that is higher than what it can be lowered to. -/
theorem eq_append_of_mem_peaks (h : peak ∈ peaks before runs) :
    before ++ runs = peak.before ++ peak.run :: peak.after ∧ peak.floor < peak.run.level := by
  induction runs generalizing before with
  | nil => simp [peaks] at h
  | cons run after ih =>
    have hlater (hmem : peak ∈ peaks (before ++ [run]) after) :
        before ++ run :: after = peak.before ++ peak.run :: peak.after ∧
          peak.floor < peak.run.level := by
      simpa using ih hmem
    simp only [peaks] at h
    split at h
    · next hhigh =>
      rcases List.mem_cons.1 h with rfl | hmem
      · simp only [Bool.and_eq_true, decide_eq_true_eq] at hhigh
        exact ⟨rfl, hhigh.2⟩
      · exact hlater hmem
    · exact hlater h

/-- From a run that is higher than the one before it, the row goes up to a peak. -/
theorem peaks_ne_nil_of_rise
    (hchain : (run :: after).IsChain fun run next => run.level ≠ next.level)
    (hpos : 0 < run.level) (hrise : ∀ last ∈ before.getLast?, last.level < run.level) :
    peaks before (run :: after) ≠ [] := by
  induction after generalizing before run with
  | nil =>
    cases hlast : before.getLast? with
    | none => simp [peaks, hlast, hpos]
    | some last =>
      have hlow : last.level < run.level := hrise last hlast
      simp [peaks, hlast, hlow]
  | cons next after ih =>
    obtain ⟨hne, hlater⟩ := List.isChain_cons_cons.1 hchain
    rcases Nat.lt_or_gt_of_ne hne with hup | hdown
    · have hrest : peaks (before ++ [run]) (next :: after) ≠ [] :=
        ih hlater (Nat.lt_of_le_of_lt (Nat.zero_le _) hup) (by simpa using hup)
      rw [peaks]
      split
      · exact List.cons_ne_nil _ _
      · exact hrest
    · cases hlast : before.getLast? with
      | none =>
        rw [peaks]
        simp [hlast, hdown]
      | some last =>
        have hlow : max last.level next.level < run.level := Nat.max_lt.2 ⟨hrise last hlast, hdown⟩
        rw [peaks]
        simp [hlast, hlow, hrise last hlast, hdown]

/-- A row that is not empty has a peak. -/
theorem peaks_ne_nil (h : Uneven runs) (hpos : 0 < total (lengthsOf runs)) :
    peaks [] runs ≠ [] := by
  cases runs with
  | nil => exact absurd hpos (Nat.lt_irrefl 0)
  | cons run after =>
    by_cases hlevel : 0 < run.level
    · exact peaks_ne_nil_of_rise h.chain hlevel (by simp)
    · have hzero : run.level = 0 := Nat.eq_zero_of_not_pos hlevel
      cases after with
      | nil =>
        rw [lengthsOf_cons, hzero, total_append, total_replicate] at hpos
        exact absurd hpos (Nat.lt_irrefl 0)
      | cons next after =>
        obtain ⟨hne, hlater⟩ := List.isChain_cons_cons.1 h.chain
        rw [hzero] at hne
        have hrest : peaks [run] (next :: after) ≠ [] :=
          peaks_ne_nil_of_rise hlater (Nat.pos_of_ne_zero hne.symm)
            (by simpa [hzero] using Nat.pos_of_ne_zero hne.symm)
        rw [peaks]
        split
        · exact List.cons_ne_nil _ _
        · exact hrest

theorem mem_of_bestPeak? (h : bestPeak? found = some peak) : peak ∈ found := by
  induction found generalizing peak with
  | nil => cases h
  | cons first rest ih =>
    rw [bestPeak?] at h
    split at h
    · obtain rfl := Option.some.inj h
      exact List.mem_cons_self
    · next other hother =>
      split at h
      · obtain rfl := Option.some.inj h
        exact List.mem_cons_of_mem _ (ih hother)
      · obtain rfl := Option.some.inj h
        exact List.mem_cons_self

theorem exists_bestPeak? (h : found ≠ []) : ∃ peak, bestPeak? found = some peak := by
  obtain ⟨first, rest, rfl⟩ := List.exists_cons_of_ne_nil h
  rw [bestPeak?]
  split
  · exact ⟨_, rfl⟩
  · split <;> exact ⟨_, rfl⟩

/-! ### Shares -/

theorem roundHalfUp_mono {num more : Nat} (h : num ≤ more) (den : Nat) :
    roundHalfUp num den ≤ roundHalfUp more den :=
  Nat.div_le_div_right (by omega)

theorem total_differences (marks : Nat → Nat) (hmono : ∀ k, marks k ≤ marks (k + 1))
    (count : Nat) :
    total ((List.range count).map fun k => marks (k + 1) - marks k) =
      marks count - marks 0 := by
  induction count with
  | zero => simp [total_nil]
  | succ count ih =>
    have hfrom : marks 0 ≤ marks count := by
      clear ih
      induction count with
      | zero => exact Nat.le_refl _
      | succ count ih => exact Nat.le_trans ih (hmono count)
    have hstep := hmono count
    rw [List.range_succ, List.map_append, total_append, ih]
    simp only [List.map_cons, List.map_nil, total_cons, total_nil]
    omega

/-- The shares of a total make it up. -/
theorem total_shares {count : Nat} (hcount : 0 < count) (whole : Nat) :
    total (shares count whole) = whole := by
  have hmarks := total_differences (fun k => roundHalfUp (k * whole) count)
    (fun k => roundHalfUp_mono (Nat.mul_le_mul_right _ (Nat.le_succ k)) count) count
  have hlast : roundHalfUp (count * whole) count = whole := by
    rw [roundHalfUp, ← Nat.mul_assoc, Nat.mul_add_div (by omega), Nat.div_eq_of_lt (by omega),
      Nat.add_zero]
  have hfirst : roundHalfUp (0 * whole) count = 0 := by
    rw [roundHalfUp]
    exact Nat.div_eq_of_lt (by omega)
  rw [shares, hmarks, hlast, hfirst, Nat.sub_zero]

theorem length_shares (count whole : Nat) : (shares count whole).length = count := by
  simp [shares]

/-! ### Rows -/

/-- Of a row with enough in it, exactly the missing cells are saved, and no part is lost. -/
theorem saveCells_saves (h : Uneven runs) (hmissing : missing ≤ total (lengthsOf runs)) :
    (saveCells missing runs).length = (lengthsOf runs).length ∧
      total (saveCells missing runs) + missing = total (lengthsOf runs) := by
  induction missing using Nat.strongRecOn generalizing runs with
  | ind missing ih =>
    rw [saveCells]
    split
    · next hnone => exact ⟨rfl, by rw [hnone, Nat.add_zero]⟩
    · next hsome =>
      have hpos : 0 < total (lengthsOf runs) :=
        Nat.lt_of_lt_of_le (Nat.pos_of_ne_zero hsome) hmissing
      obtain ⟨peak, hbest⟩ := exists_bestPeak? (peaks_ne_nil h hpos)
      obtain ⟨hruns, hfloor⟩ := eq_append_of_mem_peaks (mem_of_bestPeak? hbest)
      rw [List.nil_append] at hruns
      have hcount : 0 < peak.run.count := h.pos _ (by simp [hruns])
      have hlowering : peak.run.count * (peak.run.level - peak.floor) +
          peak.run.count * peak.floor = peak.run.count * peak.run.level := by
        rw [← Nat.mul_add, Nat.sub_add_cancel (Nat.le_of_lt hfloor)]
      simp only [hbest]
      rw [hruns, total_around] at hmissing
      rw [hruns, total_around, length_around]
      split
      · next hwhole =>
        -- the run goes down to its higher neighbour, and the rest is saved elsewhere
        have hlowered := total_around peak.before ⟨peak.run.count, peak.floor⟩ peak.after
        dsimp only at hlowered
        obtain ⟨hkept, hsaved⟩ := ih (missing - peak.run.count * (peak.run.level - peak.floor))
          (by omega) (uneven_runsOf _) (by rw [lengthsOf_runsOf, hlowered]; omega)
        rw [lengthsOf_runsOf] at hkept hsaved
        exact ⟨hkept.trans (length_around ..), by omega⟩
      · next hpart =>
        have hless : missing < peak.run.count * (peak.run.level - peak.floor) := by
          have hgain := Nat.mul_pos hcount (Nat.sub_pos_of_lt hfloor)
          omega
        constructor
        · rw [List.length_append, List.length_append, length_shares, Nat.add_assoc]
        · rw [total_append, total_append, total_shares hcount]
          omega

/-- The length of a part if the part that takes the rest has some cells. -/
def Part.filled (filler : Nat) : Part → Nat
  | .fixed length => length
  | .rest => filler

theorem total_filled (filler : Nat) (parts : List Part) :
    total (parts.map (Part.filled filler)) =
      total (parts.map Part.length) + parts.count .rest * filler := by
  induction parts with
  | nil => simp [total_nil]
  | cons part parts ih =>
    simp only [List.map_cons, total_cons, ih]
    cases part with
    | fixed length => 
      rw [List.count_cons_of_ne (by simp)]
      simp only [Part.filled, Part.length]
      omega
    | rest =>
      rw [List.count_cons_self, Nat.succ_mul]
      simp only [Part.filled, Part.length]
      omega

theorem partLengths_of_le {parts : List Part} (h : total (parts.map Part.length) ≤ room) :
    partLengths room parts = parts.map (Part.filled (room - total (parts.map Part.length))) := by
  rw [partLengths, if_pos h]
  refine List.map_congr_left fun part _ => ?_
  cases part <;> rfl

theorem partLengths_of_lt {parts : List Part} (h : room < total (parts.map Part.length)) :
    partLengths room parts =
      saveCells (total (parts.map Part.length) - room) (runsOf (parts.map Part.length)) := by
  rw [partLengths, if_neg (Nat.not_le.2 h)]

theorem length_partLengths (room : Nat) (parts : List Part) :
    (partLengths room parts).length = parts.length := by
  rcases Nat.lt_or_ge room (total (parts.map Part.length)) with h | h
  · obtain ⟨hkept, -⟩ := @saveCells_saves (runsOf (parts.map Part.length))
      (total (parts.map Part.length) - room) (uneven_runsOf _)
      (by rw [lengthsOf_runsOf]; exact Nat.sub_le ..)
    rw [partLengths_of_lt h, hkept, lengthsOf_runsOf, List.length_map]
  · rw [partLengths_of_le h, List.length_map]

/-- Parts of which one takes the rest fill a room of any size. -/
theorem total_partLengths {parts : List Part} (h : parts.count .rest = 1) (room : Nat) :
    total (partLengths room parts) = room := by
  rcases Nat.lt_or_ge room (total (parts.map Part.length)) with hless | hroom
  · obtain ⟨-, hsaved⟩ := @saveCells_saves (runsOf (parts.map Part.length))
      (total (parts.map Part.length) - room) (uneven_runsOf _)
      (by rw [lengthsOf_runsOf]; exact Nat.sub_le ..)
    rw [lengthsOf_runsOf] at hsaved
    rw [partLengths_of_lt hless]
    omega
  · rw [partLengths_of_le hroom, total_filled, h, Nat.one_mul, Nat.add_sub_cancel' hroom]

end QueryDesk.Layout
