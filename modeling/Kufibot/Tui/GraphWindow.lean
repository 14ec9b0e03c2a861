import Kufibot.Lib.DigitalLine
import Mathlib.Data.List.Chain

/-!
# `Tui.GraphWindow` — drawing a line

`draw_line` steps from cell to cell until it is at the end point, and at nothing else would it stop. It keeps
an error term, and one round of the loop may step in both directions.

Along the longer side every round takes a step, and the error term is the offset of the cell that has been
reached: the cells are those of a straight line (`AlongX`), which ends at the end point. With the roles of
the two directions exchanged and the error negated the loop does the same, so the other case is this one.

The end points are those on the screen, behind `transform_to_screen`, and `int` is `Int`: the sides of a
screen are far from an overflow.
-/

namespace Kufibot

open Lib.DigitalLine

structure FPoint where
  x : Int
  y : Int
deriving DecidableEq, Repr

def FPoint.swap (p : FPoint) : FPoint := ⟨p.y, p.x⟩

namespace GraphWindow

/-! ## The loop -/

/-- The variables of the loop. -/
structure Pen where
  x : Int
  y : Int
  err : Int

def Pen.point (s : Pen) : FPoint := ⟨s.x, s.y⟩

/-- `std::abs(to - from)`. -/
def span (first last : Int) : Int := (last - first).natAbs

/-- The sign of a step. -/
def direction (first last : Int) : Int := if first < last then 1 else -1

/-- The steps of one round. -/
def lineStep (start stop : FPoint) (s : Pen) : Pen :=
  let dx := span start.x stop.x
  let dy := span start.y stop.y
  let sx := direction start.x stop.x
  let sy := direction start.y stop.y
  -- both tests are of the error before the round
  let e2 := 2 * s.err
  let s := if e2 > -dy then { s with err := s.err - dy, x := s.x + sx } else s
  if e2 < dx then { s with err := s.err + dx, y := s.y + sy } else s

/-- `while (true)`, for at most `fuel` rounds; the points that are drawn, if it ends. -/
def lineLoop (start stop : FPoint) : Nat → Pen → Option (List FPoint)
  | 0, _ => none
  | fuel + 1, s =>
      if s.x = stop.x ∧ s.y = stop.y then some [s.point]
      else (lineLoop start stop fuel (lineStep start stop s)).map fun points => s.point :: points

def startPen (start stop : FPoint) : Pen where
  x := start.x
  y := start.y
  err := span start.x stop.x - span start.y stop.y

/-- `draw_line` between points of the screen. -/
def drawLine (start stop : FPoint) (fuel : Nat) : Option (List FPoint) :=
  lineLoop start stop fuel (startPen start stop)

/-! ## What is drawn -/

/-- Two cells that touch, at a side or at a corner. -/
structure Neighbours (p q : FPoint) : Prop where
  x : (q.x - p.x).natAbs ≤ 1
  y : (q.y - p.y).natAbs ≤ 1
  ne : p ≠ q

/-- Between two numbers, whichever is the greater one. -/
def Between (first last n : Int) : Prop := first ≤ n ∧ n ≤ last ∨ last ≤ n ∧ n ≤ first

/-- In the rectangle that two points span. -/
structure InRectangle (start stop p : FPoint) : Prop where
  x : Between start.x stop.x p.x
  y : Between start.y stop.y p.y

/-- **The points connect** the first one and the end, in `n` steps. -/
structure Connects (start stop first : FPoint) (n : Nat) (points : List FPoint) : Prop where
  length : points.length = n + 1
  head : points.head? = some first
  last : points.getLast? = some stop
  chain : points.IsChain Neighbours
  inside : ∀ p ∈ points, InRectangle start stop p

/-- **An invariant of the loop**, with the number of the rounds that are left. -/
structure LineInvariant (start stop : FPoint) (inv : Nat → Pen → Prop) : Prop where
  done : ∀ s, inv 0 s → s.point = stop
  running : ∀ k s, inv (k + 1) s → s.point ≠ stop
  step : ∀ k s, inv (k + 1) s → inv k (lineStep start stop s)
  neighbours : ∀ k s, inv (k + 1) s → Neighbours s.point (lineStep start stop s).point
  inside : ∀ k s, inv k s → InRectangle start stop s.point

theorem point_eq_iff {s : Pen} {p : FPoint} : s.point = p ↔ s.x = p.x ∧ s.y = p.y := by
  unfold Pen.point
  constructor
  · rintro rfl
    exact ⟨rfl, rfl⟩
  · rintro ⟨hx, hy⟩
    rw [hx, hy]

/-- **A run of the loop**: it ends when no round is left, with fuel for this, and its points connect. -/
theorem LineInvariant.run {start stop : FPoint} {inv : Nat → Pen → Prop} (h : LineInvariant start stop inv)
    {n : Nat} {s : Pen} (hs : inv n s) :
    ∃ points, (∀ fuel, lineLoop start stop fuel s = if n < fuel then some points else none) ∧
      Connects start stop s.point n points := by
  induction n generalizing s with
  | zero =>
      have hdone := h.done s hs
      refine ⟨[s.point], fun fuel => ?_, rfl, rfl, congrArg some hdone, List.isChain_singleton _,
        List.forall_mem_singleton.mpr (h.inside 0 s hs)⟩
      cases fuel with
      | zero => rfl
      | succ fuel =>
          unfold lineLoop
          rw [if_pos (point_eq_iff.mp hdone), if_pos (Nat.succ_pos fuel)]
  | succ n ih =>
      -- the loop goes on from the next cell, which is a neighbour of this one
      obtain ⟨points, hloop, hconnects⟩ := ih (h.step n s hs)
      refine ⟨s.point :: points, fun fuel => ?_, ?_, rfl, ?_, ?_, ?_⟩
      · cases fuel with
        | zero => rfl
        | succ fuel =>
            have hrunning : ¬ (s.x = stop.x ∧ s.y = stop.y) :=
              fun heq => h.running n s hs (point_eq_iff.mpr heq)
            unfold lineLoop
            rw [if_neg hrunning, hloop]
            by_cases hfuel : n < fuel
            · rw [if_pos hfuel, if_pos (Nat.succ_lt_succ hfuel)]
              rfl
            · rw [if_neg hfuel, if_neg fun hlt => hfuel (Nat.lt_of_succ_lt_succ hlt)]
              rfl
      · rw [List.length_cons, hconnects.length]
      · obtain ⟨first, rest, hcons⟩ := List.exists_cons_of_length_eq_add_one hconnects.length
        have hlast := hconnects.last
        rw [hcons] at hlast ⊢
        rw [List.getLast?_cons_cons]
        exact hlast
      · obtain ⟨first, rest, hcons⟩ := List.exists_cons_of_length_eq_add_one hconnects.length
        have hhead := hconnects.head
        have hchain := hconnects.chain
        rw [hcons] at hhead hchain ⊢
        obtain rfl := Option.some.inj hhead
        exact List.isChain_cons_cons.mpr ⟨h.neighbours n s hs, hchain⟩
      · exact List.forall_mem_cons.mpr ⟨h.inside _ s hs, hconnects.inside⟩

/-! ## Along the longer side -/

theorem direction_mul_span (first last : Int) : first + direction first last * span first last = last := by
  unfold direction span
  split
  · omega
  · omega

theorem direction_eq (first last : Int) : direction first last = 1 ∨ direction first last = -1 := by
  unfold direction
  split
  · exact .inl rfl
  · exact .inr rfl

/-- The first `i` steps stay between the ends. -/
theorem between_of_le {first last i : Int} (hi : 0 ≤ i) (hle : i ≤ span first last) :
    Between first last (first + direction first last * i) := by
  unfold Between direction
  unfold span at hle
  split
  · omega
  · omega

/-- **Where the loop is** after `i` rounds: in cell `j` of the line, and the error term is its offset. -/
structure AlongX (start stop : FPoint) (i j : Int) (s : Pen) : Prop where
  column : 0 ≤ i ∧ i ≤ span start.x stop.x
  row : 0 ≤ j
  onLine : OnLine (span start.x stop.x) (span start.y stop.y) i j
  x : s.x = start.x + direction start.x stop.x * i
  y : s.y = start.y + direction start.y stop.y * j
  err : s.err = offset (span start.x stop.x) (span start.y stop.y) i j + span start.x stop.x -
    span start.y stop.y

namespace AlongX

variable {start stop : FPoint} {i j : Int} {s : Pen}

theorem start_pen (hx : 0 < span start.x stop.x) : AlongX start stop 0 0 (startPen start stop) where
  column := ⟨Int.le_refl 0, Int.le_of_lt hx⟩
  row := Int.le_refl 0
  onLine := .zero hx
  x := by rw [Int.mul_zero, Int.add_zero]; rfl
  y := by rw [Int.mul_zero, Int.add_zero]; rfl
  err := by rw [offset_zero, Int.zero_add]; rfl

/-- **A round** takes a step in `x`, and one in `y` iff a cell that stays would be too far below the line. -/
theorem lineStep_eq (h : AlongX start stop i j s) (hx : 0 < span start.x stop.x)
    (hslope : span start.y stop.y ≤ span start.x stop.x) :
    lineStep start stop s =
      if 2 * (offset (span start.x stop.x) (span start.y stop.y) i j - span start.y stop.y) <
          -span start.x stop.x then
        ⟨s.x + direction start.x stop.x, s.y + direction start.y stop.y,
          s.err - span start.y stop.y + span start.x stop.x⟩
      else ⟨s.x + direction start.x stop.x, s.y, s.err - span start.y stop.y⟩ := by
  have hlt := h.onLine.lt hx hslope
  have herr := h.err
  -- the step in `x` is never left out, since no cell is a column late
  have hforward : 2 * s.err > -span start.y stop.y := by omega
  unfold lineStep
  dsimp only
  rw [if_pos hforward]
  by_cases hup : 2 * (offset (span start.x stop.x) (span start.y stop.y) i j - span start.y stop.y) <
      -span start.x stop.x
  · rw [if_pos hup, if_pos (by omega)]
  · rw [if_neg hup, if_neg (by omega)]

theorem neighbours_of_step {s t : Pen} {d : Int} (hd : d = 1 ∨ d = -1) (hx : t.x = s.x + d)
    (hy : (t.y - s.y).natAbs ≤ 1) : Neighbours s.point t.point where
  x := by
    show (t.x - s.x).natAbs ≤ 1
    omega
  y := hy
  ne := by
    intro heq
    have hsame : s.x = t.x := congrArg FPoint.x heq
    omega

/-- **A round goes on to the next cell of the line**, which touches this one. -/
theorem step (h : AlongX start stop i j s) (hx : 0 < span start.x stop.x)
    (hslope : span start.y stop.y ≤ span start.x stop.x) (hi : i < span start.x stop.x) :
    (∃ j', AlongX start stop (i + 1) j' (lineStep start stop s)) ∧
      Neighbours s.point (lineStep start stop s).point := by
  have hy : 0 ≤ span start.y stop.y := Int.natCast_nonneg _
  have hcolumn : 0 ≤ i + 1 ∧ i + 1 ≤ span start.x stop.x := ⟨Int.le_add_one h.column.1, hi⟩
  have hnextX : s.x + direction start.x stop.x = start.x + direction start.x stop.x * (i + 1) := by
    rw [h.x, Int.mul_add, Int.mul_one, Int.add_assoc]
  rw [h.lineStep_eq hx hslope]
  split
  · rename_i hup
    refine ⟨⟨j + 1, hcolumn, Int.le_add_one h.row, h.onLine.up hslope hup, hnextX, ?_, ?_⟩,
      neighbours_of_step (direction_eq _ _) rfl ?_⟩
    · show s.y + direction start.y stop.y = _
      rw [h.y, Int.mul_add, Int.mul_one, Int.add_assoc]
    · show s.err - span start.y stop.y + span start.x stop.x = _
      rw [h.err, offset_up, offset_right]
      omega
    · have hdir := direction_eq start.y stop.y
      show (s.y + direction start.y stop.y - s.y).natAbs ≤ 1
      omega
  · rename_i hstay
    refine ⟨⟨j, hcolumn, h.row, h.onLine.stay hy (Int.not_lt.mp hstay), hnextX, h.y, ?_⟩,
      neighbours_of_step (direction_eq _ _) rfl ?_⟩
    · show s.err - span start.y stop.y = _
      rw [h.err, offset_right]
      omega
    · rw [Int.sub_self]
      exact Nat.zero_le 1

theorem point_eq_stop (h : AlongX start stop i j s) (hx : 0 < span start.x stop.x)
    (hi : i = span start.x stop.x) : s.point = stop := by
  subst hi
  refine point_eq_iff.mpr ⟨?_, ?_⟩
  · rw [h.x, direction_mul_span]
  · rw [h.y, h.onLine.last hx, direction_mul_span]

theorem point_ne_stop (h : AlongX start stop i j s) (hi : i < span start.x stop.x) : s.point ≠ stop := by
  intro heq
  have hx := h.x
  rw [(point_eq_iff.mp heq).1] at hx
  have hstop := direction_mul_span start.x stop.x
  rcases direction_eq start.x stop.x with hdir | hdir
  · rw [hdir] at hx hstop
    omega
  · rw [hdir] at hx hstop
    omega

theorem inRectangle (h : AlongX start stop i j s) (hx : 0 < span start.x stop.x) :
    InRectangle start stop s.point where
  x := by
    show Between start.x stop.x s.x
    rw [h.x]
    exact between_of_le h.column.1 h.column.2
  y := by
    show Between start.y stop.y s.y
    rw [h.y]
    exact between_of_le h.row (h.onLine.le hx (Int.natCast_nonneg _) h.column.2)

end AlongX

/-- The loop is on the line, and `k` columns are left. -/
def LeftAlongX (start stop : FPoint) (k : Nat) (s : Pen) : Prop :=
  ∃ i j, AlongX start stop i j s ∧ i + k = span start.x stop.x

/-- **The invariant** if the line is not steeper than the diagonal. -/
theorem lineInvariant_alongX {start stop : FPoint} (hx : 0 < span start.x stop.x)
    (hslope : span start.y stop.y ≤ span start.x stop.x) :
    LineInvariant start stop (LeftAlongX start stop) where
  done := by
    rintro s ⟨i, j, h, hleft⟩
    exact h.point_eq_stop hx (by omega)
  running := by
    rintro k s ⟨i, j, h, hleft⟩
    exact h.point_ne_stop (by omega)
  step := by
    rintro k s ⟨i, j, h, hleft⟩
    obtain ⟨⟨j', h'⟩, -⟩ := h.step hx hslope (by omega)
    exact ⟨i + 1, j', h', by omega⟩
  neighbours := by
    rintro k s ⟨i, j, h, hleft⟩
    exact (h.step hx hslope (by omega)).2
  inside := by
    rintro k s ⟨i, j, h, -⟩
    exact h.inRectangle hx

/-! ## With the directions exchanged -/

def Pen.swap (s : Pen) : Pen := ⟨s.y, s.x, -s.err⟩

theorem swap_inj {p q : FPoint} : p.swap = q.swap ↔ p = q := by
  constructor
  · intro h
    cases p
    cases q
    cases h
    rfl
  · rintro rfl
    rfl

/-- **A round does the same** with the directions exchanged. -/
theorem lineStep_swap (start stop : FPoint) (s : Pen) :
    lineStep start.swap stop.swap s.swap = (lineStep start stop s).swap := by
  -- the two tests change places
  have hx : 2 * -s.err > -span start.x stop.x ↔ 2 * s.err < span start.x stop.x := by omega
  have hy : 2 * -s.err < span start.y stop.y ↔ 2 * s.err > -span start.y stop.y := by omega
  unfold lineStep Pen.swap FPoint.swap
  simp only [hx, hy]
  by_cases hstepY : 2 * s.err < span start.x stop.x
  · by_cases hstepX : 2 * s.err > -span start.y stop.y
    · simp only [if_pos hstepX, if_pos hstepY, Pen.mk.injEq, true_and]
      omega
    · simp only [if_neg hstepX, if_pos hstepY, Pen.mk.injEq, true_and]
      omega
  · by_cases hstepX : 2 * s.err > -span start.y stop.y
    · simp only [if_pos hstepX, if_neg hstepY, Pen.mk.injEq, true_and]
      omega
    · simp only [if_neg hstepX, if_neg hstepY]

theorem startPen_swap (start stop : FPoint) : (startPen start stop).swap = startPen start.swap stop.swap := by
  unfold startPen Pen.swap FPoint.swap
  dsimp only
  rw [Int.neg_sub]

theorem LineInvariant.of_swap {start stop : FPoint} {inv : Nat → Pen → Prop}
    (h : LineInvariant start.swap stop.swap inv) :
    LineInvariant start stop fun k s => inv k s.swap where
  done := fun s hs => swap_inj.mp (h.done s.swap hs)
  running := fun k s hs heq => h.running k s.swap hs (swap_inj.mpr heq)
  step := by
    intro k s hs
    rw [← lineStep_swap]
    exact h.step k s.swap hs
  neighbours := by
    intro k s hs
    have hswap := h.neighbours k s.swap hs
    rw [lineStep_swap] at hswap
    exact ⟨hswap.y, hswap.x, fun heq => hswap.ne (swap_inj.mpr heq)⟩
  inside := fun k s hs => ⟨(h.inside k s.swap hs).y, (h.inside k s.swap hs).x⟩

/-! ## A line -/

/-- `max(|dx|, |dy|)`. -/
def longerSide (start stop : FPoint) : Nat := max (stop.x - start.x).natAbs (stop.y - start.y).natAbs

/-- Between equal points no step is left. -/
theorem lineInvariant_same (start : FPoint) :
    LineInvariant start start fun k s => k = 0 ∧ s.point = start where
  done := fun _ hs => hs.2
  running := fun _ _ hs => (nomatch hs.1)
  step := fun _ _ hs => (nomatch hs.1)
  neighbours := fun _ _ hs => (nomatch hs.1)
  inside := by
    rintro k s ⟨-, rfl⟩
    exact ⟨.inl ⟨Int.le_refl _, Int.le_refl _⟩, .inl ⟨Int.le_refl _, Int.le_refl _⟩⟩

/-- **Every line has an invariant**, with which its loop starts. -/
theorem exists_lineInvariant (start stop : FPoint) :
    ∃ inv, LineInvariant start stop inv ∧ inv (longerSide start stop) (startPen start stop) := by
  unfold longerSide
  have hspanX : span start.x stop.x = (stop.x - start.x).natAbs := rfl
  have hspanY : span start.y stop.y = (stop.y - start.y).natAbs := rfl
  by_cases hslope : span start.y stop.y ≤ span start.x stop.x
  · have hmax : max (stop.x - start.x).natAbs (stop.y - start.y).natAbs = (stop.x - start.x).natAbs :=
      Nat.max_eq_left (by omega)
    rw [hmax]
    by_cases hx : 0 < span start.x stop.x
    · refine ⟨_, lineInvariant_alongX hx hslope, 0, 0, .start_pen hx, ?_⟩
      rw [Int.zero_add]
      rfl
    · -- both sides are 0
      obtain rfl : start = stop := by
        cases start
        cases stop
        dsimp only at *
        rw [FPoint.mk.injEq]
        omega
      exact ⟨_, lineInvariant_same start, by rw [Int.sub_self]; rfl, rfl⟩
  · have hmax : max (stop.x - start.x).natAbs (stop.y - start.y).natAbs = (stop.y - start.y).natAbs :=
      Nat.max_eq_right (by omega)
    have hy : 0 < span start.swap.x stop.swap.x := by
      show 0 < span start.y stop.y
      omega
    have hslope : span start.swap.y stop.swap.y ≤ span start.swap.x stop.swap.x := by
      show span start.x stop.x ≤ span start.y stop.y
      omega
    rw [hmax]
    refine ⟨_, (lineInvariant_alongX hy hslope).of_swap, 0, 0, ?_, ?_⟩
    · rw [startPen_swap]
      exact .start_pen hy
    · rw [Int.zero_add]
      rfl

/-- **`draw_line` connects the end points**: it ends, whenever it is given more rounds than the longer side
    has steps, and the points that it has drawn are one more than these steps and go from end to end. -/
theorem draw_line_connects (start stop : FPoint) :
    ∃ points, (∀ fuel, drawLine start stop fuel =
        if longerSide start stop < fuel then some points else none) ∧
      Connects start stop start (longerSide start stop) points := by
  obtain ⟨inv, hinv, hstart⟩ := exists_lineInvariant start stop
  exact hinv.run hstart

end GraphWindow

end Kufibot
