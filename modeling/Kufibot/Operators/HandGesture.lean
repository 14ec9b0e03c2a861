import Kufibot.Lib.Computes
import Kufibot.Services.LandmarkTracker
import Mathlib.Algebra.Order.BigOperators.Group.List
import Mathlib.Algebra.Order.Ring.Int

/-!
# `Operators.HandGesture` — where a hand is, and what it shows

`findPosition` turns the result for one hand into landmarks and a box around them, and `detectGesture` reads
off their order which fingers are up. The pipeline that finds the hands is given: `answer` is its result for
a frame.

The pixels of a hand are numbered from 0, and the tips of the fingers are the numbers of `tipIds`: a list
that is shorter is read beyond its end (`detectGesture_isSome_iff`).
-/

namespace Kufibot

/-- The column and the row of a landmark: its share of the width and of the height, as an `int`. -/
abbrev Pixel := Int × Int

/-- The members of `HandGestureRecognizingOperator` that change. -/
structure HandGestureRecognizingOperator where
  initialized : Bool
  /-- `results`: the landmarks of each hand. -/
  results : Option (List (List Pixel)) := none
  lmsList : List Landmark := []
  bbox : BoundingBox := {}

/-- The landmarks of a pixel list, numbered from 0. -/
def landmarks (pixels : List Pixel) : List Landmark :=
  pixels.zipIdx.map fun (pixel, id) => ⟨id, pixel.1, pixel.2⟩

/-- `BoundingBox(xmin, ymin, xmax, ymax)` of the pixels, if there are any. -/
def boundingBox (pixels : List Pixel) : BoundingBox :=
  match (pixels.map Prod.fst).min?, (pixels.map Prod.snd).min?, (pixels.map Prod.fst).max?,
    (pixels.map Prod.snd).max? with
  | some xmin, some ymin, some xmax, some ymax => ⟨xmin, ymin, xmax, ymax, true⟩
  | _, _, _, _ => {}

namespace HandGestureRecognizingOperator

def tipIds : List Nat := [4, 8, 12, 16, 20]

/-! ## The operations -/

/-- `findFingers`: everything is cleared before the frame is looked at. -/
def findFingers (answer : Option (List (List Pixel))) (s : HandGestureRecognizingOperator) :
    HandGestureRecognizingOperator :=
  if !s.initialized then s
  else { s with results := answer, lmsList := [], bbox := {} }

def getHandCount (s : HandGestureRecognizingOperator) : Nat := s.results.elim 0 List.length

/-- `findPosition`: the members `lmsList` and `bbox` are also what it returns. -/
def findPosition (handNo : Nat) (s : HandGestureRecognizingOperator) : HandGestureRecognizingOperator :=
  match s.results.bind (·[handNo]?) with
  | none => { s with lmsList := [], bbox := {} }
  | some hand => { s with lmsList := landmarks hand, bbox := boundingBox hand }

/-- Whether the thumb is stretched; `none` is an access beyond the end. -/
def thumbUp (s : HandGestureRecognizingOperator) : Option Bool := do
  let tip ← s.lmsList[4]?
  let below ← s.lmsList[4 - 1]?
  return tip.cx > below.cx

/-- Whether the finger with this tip is up. -/
def tipUp (s : HandGestureRecognizingOperator) (tipId : Nat) : Option Bool := do
  let tip ← s.lmsList[tipId]?
  let below ← s.lmsList[tipId - 2]?
  return tip.cy < below.cy

/-- `findFingerUp`. -/
def findFingerUp (s : HandGestureRecognizingOperator) : Option (List Bool) :=
  if s.lmsList.isEmpty then some []
  else do
    let thumb ← s.thumbUp
    let others ← tipIds.tail.mapM s.tipUp
    return thumb :: others

/-- The square of `findDistance(p1, p2).length`. -/
def findDistanceSquared (p1 p2 : Nat) (s : HandGestureRecognizingOperator) : Int :=
  match s.lmsList[p1]?, s.lmsList[p2]? with
  | some l1, some l2 => (l2.cx - l1.cx) ^ 2 + (l2.cy - l1.cy) ^ 2
  | _, _ => 0

/-- The label of these fingers, with what `findDistance` says of the tips of thumb and forefinger. -/
def label (fingers : List Bool) (squaredDistance : Int) : String :=
  if fingers.all id then "Open Hand"
  else if fingers.all (!·) then "Fist"
  else if fingers = [false, true, false, false, false] then "Pointer Finger"
  else if fingers = [false, true, true, false, false] then "Peace Sign"
  else if fingers = [true, false, false, false, true] then "Phone Hand"
  else if fingers = [false, false, false, false, true] then "Pinky Finger"
  else if fingers.tail.all (!·) && squaredDistance < 50 ^ 2 then "OK Sign"
  else "Unknown Gesture"

/-- `detectGesture`. -/
def detectGesture (s : HandGestureRecognizingOperator) : Option String :=
  if s.lmsList.isEmpty then some "No Hand"
  else s.findFingerUp.map fun fingers => label fingers (s.findDistanceSquared 4 8)

/-! ## What they find -/

/-- Nothing of an earlier frame is left. -/
theorem findFingers_eq {s : HandGestureRecognizingOperator} (h : s.initialized = true)
    (answer : Option (List (List Pixel))) :
    s.findFingers answer = { initialized := true, results := answer } := by
  unfold findFingers
  rw [h]
  rfl

theorem findPosition_eq {s : HandGestureRecognizingOperator} {hands : List (List Pixel)}
    (h : s.results = some hands) {handNo : Nat} (hno : handNo < hands.length) :
    s.findPosition handNo = { s with lmsList := landmarks hands[handNo], bbox := boundingBox hands[handNo] } := by
  have hhand : s.results.bind (·[handNo]?) = some hands[handNo] := by
    rw [h, Option.bind_some, List.getElem?_eq_getElem hno]
  unfold findPosition
  rw [hhand]

theorem length_landmarks (pixels : List Pixel) : (landmarks pixels).length = pixels.length := by
  rw [landmarks, List.length_map, List.length_zipIdx]

theorem thumbUp_isSome_iff (s : HandGestureRecognizingOperator) :
    s.thumbUp.isSome ↔ 4 < s.lmsList.length := by
  by_cases h : 4 < s.lmsList.length
  · have hbelow : 4 - 1 < s.lmsList.length := by omega
    simp only [thumbUp, List.getElem?_eq_getElem h, List.getElem?_eq_getElem hbelow]
    exact iff_of_true rfl h
  · simp only [thumbUp, List.getElem?_eq_none (not_lt.mp h)]
    exact iff_of_false Bool.false_ne_true h

theorem tipUp_isSome_iff (s : HandGestureRecognizingOperator) (tipId : Nat) :
    (s.tipUp tipId).isSome ↔ tipId < s.lmsList.length := by
  by_cases h : tipId < s.lmsList.length
  · have hbelow : tipId - 2 < s.lmsList.length := by omega
    simp only [tipUp, List.getElem?_eq_getElem h, List.getElem?_eq_getElem hbelow]
    exact iff_of_true rfl h
  · simp only [tipUp, List.getElem?_eq_none (not_lt.mp h)]
    exact iff_of_false Bool.false_ne_true h

/-- **The gesture is read without leaving the list** iff there is no hand, or it has all landmarks up to the
    tip of the little finger. -/
theorem detectGesture_isSome_iff (s : HandGestureRecognizingOperator) :
    s.detectGesture.isSome ↔ s.lmsList = [] ∨ 21 ≤ s.lmsList.length := by
  by_cases hempty : s.lmsList = []
  · simp [detectGesture, hempty]
  · have hfalse : s.lmsList.isEmpty = false := List.isEmpty_eq_false_iff.mpr hempty
    have hfingers : s.findFingerUp.isSome ↔
        s.thumbUp.isSome ∧ (tipIds.tail.mapM s.tipUp).isSome := by
      unfold findFingerUp
      rw [hfalse]
      cases s.thumbUp with
      | none => simp
      | some thumb => cases tipIds.tail.mapM s.tipUp <;> simp
    unfold detectGesture
    rw [hfalse, if_neg Bool.false_ne_true, Option.isSome_map, hfingers, thumbUp_isSome_iff,
      Lib.isSome_mapM_iff]
    simp only [tipIds, List.tail_cons, List.forall_mem_cons, tipUp_isSome_iff, hempty, false_or]
    constructor
    · rintro ⟨_, _, _, _, hlast, _⟩
      exact hlast
    · intro hlength
      exact ⟨by omega, by omega, by omega, by omega, by omega, fun _ h => absurd h List.not_mem_nil⟩

end HandGestureRecognizingOperator

/-! ## The box -/

/-- The point lies between the outermost of the pixels, in both directions. -/
structure Within (pixels : List Pixel) (point : Point2D) : Prop where
  left : ∃ pixel ∈ pixels, pixel.1 ≤ point.x
  right : ∃ pixel ∈ pixels, point.x ≤ pixel.1
  top : ∃ pixel ∈ pixels, pixel.2 ≤ point.y
  bottom : ∃ pixel ∈ pixels, point.y ≤ pixel.2

/-- An average, rounded to zero, lies between the bounds of what it is the average of. -/
theorem average_between {l : List Int} (hne : l ≠ []) {low high : Int} (hlow : ∀ a ∈ l, low ≤ a)
    (hhigh : ∀ a ∈ l, a ≤ high) : low ≤ l.sum.tdiv l.length ∧ l.sum.tdiv l.length ≤ high := by
  have hpos : (0 : Int) < l.length := Int.natCast_pos.mpr (List.length_pos_iff.mpr hne)
  have hsum : low * l.length ≤ l.sum := by
    have hle := List.card_nsmul_le_sum l low hlow
    rwa [nsmul_eq_mul, mul_comm] at hle
  have hsum' : l.sum ≤ high * l.length := by
    have hle := List.sum_le_card_nsmul l high hhigh
    rwa [nsmul_eq_mul, mul_comm] at hle
  constructor
  · rw [← Int.mul_tdiv_cancel low hpos.ne']
    exact Int.tdiv_le_tdiv hpos hsum
  · rw [← Int.mul_tdiv_cancel high hpos.ne']
    exact Int.tdiv_le_tdiv hpos hsum'

/-- Some of them are on either side of the average. -/
theorem exists_around_average {l : List Int} (hne : l ≠ []) :
    (∃ a ∈ l, a ≤ l.sum.tdiv l.length) ∧ ∃ a ∈ l, l.sum.tdiv l.length ≤ a := by
  have hlow : ∀ a ∈ l, l.min hne ≤ a := fun _ ha => List.min_le_of_mem ha
  have hhigh : ∀ a ∈ l, a ≤ l.max hne := fun _ ha => List.le_max_of_mem ha
  have hbetween := average_between hne hlow hhigh
  exact ⟨⟨_, List.min_mem hne, hbetween.1⟩, ⟨_, List.max_mem hne, hbetween.2⟩⟩

/-- The average of columns, or of rows, of some pixels. -/
theorem exists_around_average_of_pixels {pixels : List Pixel} {f : Pixel → Int} {l : List Int} (hne : l ≠ [])
    (hmem : ∀ a ∈ l, a ∈ pixels.map f) :
    (∃ pixel ∈ pixels, f pixel ≤ l.sum.tdiv l.length) ∧ ∃ pixel ∈ pixels, l.sum.tdiv l.length ≤ f pixel := by
  obtain ⟨⟨a, ha, hbelow⟩, ⟨b, hb, habove⟩⟩ := exists_around_average hne
  obtain ⟨pixel, hpixel, rfl⟩ := List.mem_map.mp (hmem a ha)
  obtain ⟨pixel', hpixel', rfl⟩ := List.mem_map.mp (hmem b hb)
  exact ⟨⟨pixel, hpixel, hbelow⟩, ⟨pixel', hpixel', habove⟩⟩

theorem mem_of_mem_landmarks {pixels : List Pixel} {l : Landmark} (h : l ∈ landmarks pixels) :
    (l.cx, l.cy) ∈ pixels := by
  obtain ⟨pixel, hpixel, rfl⟩ := List.mem_map.mp h
  exact List.fst_mem_of_mem_zipIdx hpixel

namespace RecognizedGestureData

/-- **The centre of the eyes is on the face**, or no eye has been numbered. -/
theorem getFaceCenter_spec {data : RecognizedGestureData} {pixels : List Pixel}
    (h : data.faceLandmarks = landmarks pixels) :
    data.getFaceCenter = { x := 0, y := 0 } ∨ Within pixels data.getFaceCenter := by
  unfold getFaceCenter
  rw [h]
  simp only
  split_ifs with hcount
  · right
    generalize heyes : (landmarks pixels).filter _ = eyes at hcount ⊢
    have hne : eyes ≠ [] := List.length_pos_iff.mp (Int.natCast_pos.mp hcount)
    have hmem : ∀ l ∈ eyes, (l.cx, l.cy) ∈ pixels := fun l hl =>
      mem_of_mem_landmarks (List.mem_of_mem_filter (heyes ▸ hl))
    have hcolumn : ∀ a ∈ eyes.map Landmark.cx, a ∈ pixels.map Prod.fst := by
      intro a ha
      obtain ⟨l, hl, rfl⟩ := List.mem_map.mp ha
      exact List.mem_map_of_mem (hmem l hl)
    have hrow : ∀ a ∈ eyes.map Landmark.cy, a ∈ pixels.map Prod.snd := by
      intro a ha
      obtain ⟨l, hl, rfl⟩ := List.mem_map.mp ha
      exact List.mem_map_of_mem (hmem l hl)
    have hx := exists_around_average_of_pixels (mt List.map_eq_nil_iff.mp hne) hcolumn
    have hy := exists_around_average_of_pixels (mt List.map_eq_nil_iff.mp hne) hrow
    rw [List.length_map] at hx hy
    exact ⟨hx.1, hx.2, hy.1, hy.2⟩
  · exact .inl rfl

/-- **The centre of the box is on the hand.** -/
theorem within_getHandCenter {data : RecognizedGestureData} {pixels : List Pixel}
    (h : data.handBbox = boundingBox pixels) (hvalid : data.handBbox.valid = true) :
    Within pixels data.getHandCenter := by
  rw [h] at hvalid
  unfold getHandCenter
  rw [h]
  unfold boundingBox at hvalid ⊢
  split at hvalid
  · rename_i xmin ymin xmax ymax hxmin hymin hxmax hymax
    have hcolumn : ∀ a ∈ [xmin, xmax], a ∈ pixels.map Prod.fst := by
      rw [List.forall_mem_cons, List.forall_mem_singleton]
      exact ⟨List.min?_mem hxmin, List.max?_mem hxmax⟩
    have hrow : ∀ a ∈ [ymin, ymax], a ∈ pixels.map Prod.snd := by
      rw [List.forall_mem_cons, List.forall_mem_singleton]
      exact ⟨List.min?_mem hymin, List.max?_mem hymax⟩
    have hx := exists_around_average_of_pixels (List.cons_ne_nil _ _) hcolumn
    have hy := exists_around_average_of_pixels (List.cons_ne_nil _ _) hrow
    rw [List.sum_pair] at hx hy
    exact ⟨hx.1, hx.2, hy.1, hy.2⟩
  · cases hvalid

end RecognizedGestureData

end Kufibot
