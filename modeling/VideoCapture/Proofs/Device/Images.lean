import Mathlib.Tactic.Lemma
import VideoCapture.Device.Frames

/-!
# Images in a byte string

A file of images is searched for a start marker, then for an end marker, and so on behind it. What the search finds in
images that were put one behind the other, with anything in between that does not look like the start of an image, is
exactly those images. In any other byte string the search comes to an end too, and what it finds are images that lie
one behind the other, none of which goes on behind its first end marker (`images_split`).
-/

namespace VideoCapture.Frames

/-- A marker is a byte that tells what it marks, behind a byte of ones. -/
def marker (code : UInt8) : Bytes :=
  [0xFF, code]

/-- The code of the marker at the start of an image. -/
def startCode : UInt8 := 0xD8

/-- The code of the marker at the end of an image. -/
def endCode : UInt8 := 0xD9

/-- An image with the given bytes between its two markers. -/
def image (body : Bytes) : Bytes :=
  marker startCode ++ (body ++ marker endCode)

/-- An image is longer than its body by its two markers. -/
lemma length_image (body : Bytes) : (image body).length = body.length + 4 := by
  rw [image, List.length_append, List.length_append]
  exact Nat.add_comm 2 _

/-- An image, given by the bytes between its markers, with what stands in front of it. -/
structure PlacedImage where
  filler : Bytes
  body : Bytes

namespace PlacedImage

/-- The bytes of an item: the filler, and the image behind it. -/
def bytes (item : PlacedImage) : Bytes :=
  item.filler ++ image item.body

/-- An item is as long as its filler and its image. -/
lemma length_bytes (item : PlacedImage) : item.bytes.length = item.filler.length + (item.body.length + 4) := by
  rw [bytes, List.length_append, length_image]

/-- An image in a longer byte string, with everything in between in the order in which the search meets it. -/
lemma bytes_append (item : PlacedImage) (rest : Bytes) :
    item.bytes ++ rest = item.filler ++ (marker startCode ++ (item.body ++ (marker endCode ++ rest))) := by
  simp only [bytes, image, List.append_assoc]

/-- The filler has no start marker, and the image no end marker in front of its end. -/
structure IsPlain (item : PlacedImage) : Prop where
  filler : ¬ marker startCode <:+: item.filler
  body : ¬ marker endCode <:+: item.body

/-- Where the images stand, if the first filler stands at `position`. -/
def spansFrom (position : Nat) : List PlacedImage → List Span
  | [] => []
  | item :: items =>
    ⟨position + item.filler.length, position + item.bytes.length⟩ :: spansFrom (position + item.bytes.length) items

end PlacedImage

/-- The search for images in what is left from a position on, one image at a time, with the images that it finds. -/
inductive Search : (position : Nat) → (left : Bytes) → List Span → Prop
  /-- No further image begins. -/
  | ended {position : Nat} {rest : Bytes} : ¬ marker startCode <:+: rest → Search position rest []
  /-- An image begins, but it does not end. -/
  | cutOff {position : Nat} {front rest : Bytes} : ¬ marker startCode <:+: front → ¬ marker endCode <:+: rest →
    Search position (front ++ (marker startCode ++ rest)) []
  /-- An image is found, and the search goes on behind it. -/
  | found {position : Nat} {item : PlacedImage} {rest : Bytes} {spans : List Span} :
    item.IsPlain → Search (position + item.bytes.length) rest spans → Search position (item.bytes ++ rest)
      (⟨position + item.filler.length, position + item.bytes.length⟩ :: spans)

variable {code : UInt8} {data front rest tail : Bytes} {position : Nat} {spans : List Span}

/-- A byte string either has no marker, or it splits at its first one. -/
lemma exists_first (code : UInt8) (data : Bytes) : ¬ marker code <:+: data ∨
    ∃ front rest, data = front ++ (marker code ++ rest) ∧ ¬ marker code <:+: front := by
  induction data with
  | nil => exact .inl fun inside => List.cons_ne_nil _ _ (List.infix_nil.mp inside)
  | cons b data ih =>
    by_cases here : marker code <+: b :: data
    · obtain ⟨rest, same⟩ := here
      exact .inr ⟨[], rest, same.symm, fun inside => List.cons_ne_nil _ _ (List.infix_nil.mp inside)⟩
    rcases ih with free | ⟨front, rest, rfl, free⟩
    · exact .inl fun inside => (List.infix_cons_iff.mp inside).elim here free
    · refine .inr ⟨b :: front, rest, rfl, fun inside => ?_⟩
      rcases List.infix_cons_iff.mp inside with first | later
      · exact here (first.trans (List.prefix_append (b :: front) _))
      · exact free later

/-- In front of a byte of ones, a marker can only begin where it also ends. -/
lemma not_prefix_of_free {b : UInt8} (no_ones : code ≠ 0xFF) (free : ¬ marker code <:+: b :: front) (rest : Bytes) :
    ¬ marker code <+: b :: (front ++ 0xFF :: rest) := by
  intro here
  cases front with
  | nil => exact no_ones (List.cons_prefix_cons.mp (List.cons_prefix_cons.mp here).2).1
  | cons c front =>
    obtain ⟨rfl, behind⟩ := List.cons_prefix_cons.mp here
    obtain ⟨rfl, -⟩ := List.cons_prefix_cons.mp behind
    exact free (List.prefix_append (marker code) front).isInfix

/-- The code of the marker that the search is looking for. -/
def sought : Option Nat → UInt8
  | none => startCode
  | some _ => endCode

/-- The marker that is looked for does not have the code of a filler byte. -/
lemma sought_ne_ones (start : Option Nat) : sought start ≠ 0xFF := by
  cases start with
  | none => exact (by decide : startCode ≠ 0xFF)
  | some _ => exact (by decide : endCode ≠ 0xFF)

/-- Where there is no marker, the search goes on to the next byte. -/
lemma imagesFrom_step {start : Option Nat} {b : UInt8} (elsewhere : ¬ marker (sought start) <+: b :: rest)
    (position : Nat) : imagesFrom start position (b :: rest) = imagesFrom start (position + 1) rest := by
  cases rest with
  | nil => cases start <;> rfl
  | cons c rest =>
    have other : ¬ (b = 0xFF ∧ c = sought start) := by
      rintro ⟨rfl, rfl⟩
      exact elsewhere (List.prefix_append (marker _) rest)
    cases start <;> exact if_neg other

/-- The search passes over everything in front of the first marker. -/
lemma imagesFrom_skip (start : Option Nat) (free : ¬ marker (sought start) <:+: front) (rest : Bytes) (position : Nat) :
    imagesFrom start position (front ++ 0xFF :: rest) =
      imagesFrom start (position + front.length) (0xFF :: rest) := by
  induction front generalizing position with
  | nil => rfl
  | cons b front ih =>
    have later : ¬ marker (sought start) <:+: front := fun inside => free (List.infix_cons inside)
    rw [List.cons_append, imagesFrom_step (not_prefix_of_free (sought_ne_ones start) free rest), ih later,
      List.length_cons, Nat.add_right_comm, Nat.add_assoc]

/-- Without the marker that it is looking for, the search finds nothing more. -/
lemma imagesFrom_of_free (start : Option Nat) (free : ¬ marker (sought start) <:+: data) (position : Nat) :
    imagesFrom start position data = [] := by
  induction data generalizing position with
  | nil => cases start <;> rfl
  | cons b data ih =>
    rw [imagesFrom_step fun here => free here.isInfix]
    exact ih (fun inside => free (List.infix_cons inside)) _

/-- An image begins at the first start marker. -/
lemma imagesFrom_start (free : ¬ marker startCode <:+: front) (rest : Bytes) (position : Nat) :
    imagesFrom none position (front ++ (marker startCode ++ rest)) =
      imagesFrom (some (position + front.length)) (position + front.length + 2) rest :=
  imagesFrom_skip none free (startCode :: rest) position

/-- An image that has begun ends with the first end marker. -/
lemma imagesFrom_end (free : ¬ marker endCode <:+: front) (rest : Bytes) (begun position : Nat) :
    imagesFrom (some begun) position (front ++ (marker endCode ++ rest)) =
      ⟨begun, position + front.length + 2⟩ :: imagesFrom none (position + front.length + 2) rest :=
  imagesFrom_skip (some begun) free (endCode :: rest) position

/-- One image is found in one turn of the search. -/
lemma imagesFrom_found {item : PlacedImage} (plain : item.IsPlain) (rest : Bytes) (position : Nat) :
    imagesFrom none position (item.bytes ++ rest) =
      ⟨position + item.filler.length, position + item.bytes.length⟩ ::
        imagesFrom none (position + item.bytes.length) rest := by
  have length : position + item.bytes.length = position + item.filler.length + 2 + item.body.length + 2 := by
    rw [item.length_bytes]
    omega
  rw [item.bytes_append, imagesFrom_start plain.filler, imagesFrom_end plain.body, length]

/-- The search ends, whatever it is in. -/
lemma search_imagesFrom (position : Nat) (data : Bytes) : Search position data (imagesFrom none position data) := by
  induction shorter : data.length using Nat.strongRecOn generalizing position data with
  | _ n ih =>
    rcases exists_first startCode data with free | ⟨filler, behind, rfl, filler_free⟩
    · rw [imagesFrom_of_free none free]
      exact .ended free
    rcases exists_first endCode behind with free | ⟨body, rest, rfl, body_free⟩
    · rw [imagesFrom_start filler_free, imagesFrom_of_free (some _) free]
      exact .cutOff filler_free free
    let item : PlacedImage := ⟨filler, body⟩
    have plain : item.IsPlain := ⟨filler_free, body_free⟩
    rw [← item.bytes_append rest] at shorter ⊢
    rw [imagesFrom_found plain]
    refine .found plain (ih rest.length ?_ _ rest rfl)
    rw [List.length_append, item.length_bytes] at shorter
    omega

/-- The bytes of an image, known by what stands in front of it. -/
lemma PlacedImage.slice (item : PlacedImage) (before rest : Bytes) :
    (Span.mk (before.length + item.filler.length) (before.length + item.bytes.length)).slice
      (before ++ (item.bytes ++ rest)) = image item.body := by
  have front : before.length + item.filler.length = (before ++ item.filler).length := List.length_append.symm
  have stop : before.length + item.bytes.length = (before ++ item.filler).length + (image item.body).length := by
    simp only [bytes, List.length_append, Nat.add_assoc]
  rw [front, stop, bytes, List.append_assoc, ← List.append_assoc before]
  exact Span.slice_between (before ++ item.filler) (image item.body) rest

namespace Search

/-- The search has one outcome. -/
lemma eq_imagesFrom (search : Search position data spans) : spans = imagesFrom none position data := by
  induction search with
  | ended free => rw [imagesFrom_of_free none free]
  | cutOff free open_end => rw [imagesFrom_start free, imagesFrom_of_free (some _) open_end]
  | found plain _ ih => rw [imagesFrom_found plain, ih]

/-- An image takes at least the four bytes of its markers. -/
lemma count_le (search : Search position data spans) : 4 * spans.length ≤ data.length := by
  induction search with
  | ended => exact Nat.zero_le _
  | cutOff => exact Nat.zero_le _
  | found _ _ ih =>
    rw [List.length_cons, List.length_append, PlacedImage.length_bytes]
    omega

/-- What is found lies in what was searched. -/
lemma within (search : Search position data spans) :
    ∀ span ∈ spans, position ≤ span.start ∧ span.stop ≤ position + data.length := by
  induction search with
  | ended => exact List.forall_mem_nil _
  | cutOff => exact List.forall_mem_nil _
  | found _ _ ih =>
    rw [List.length_append]
    refine List.forall_mem_cons.mpr ⟨⟨Nat.le_add_right _ _, by dsimp only; omega⟩, fun span among => ?_⟩
    have later := ih span among
    omega

/-- What is found later lies behind what is found before. -/
lemma ordered (search : Search position data spans) : spans.Pairwise fun one two => one.stop ≤ two.start := by
  induction search with
  | ended => exact .nil
  | cutOff => exact .nil
  | found _ search ih => exact .cons (fun span among => (search.within span among).1) ih

/-- What is found are images that end with their first end marker. -/
lemma slices (search : Search position data spans) (before : Bytes) (there : before.length = position) :
    ∀ span ∈ spans, ∃ body, ¬ marker endCode <:+: body ∧ span.slice (before ++ data) = image body := by
  induction search generalizing before with
  | ended => exact List.forall_mem_nil _
  | cutOff => exact List.forall_mem_nil _
  | @found position item rest spans plain _ ih =>
    rw [← there] at ih ⊢
    refine List.forall_mem_cons.mpr ⟨⟨item.body, plain.body, item.slice before rest⟩, ?_⟩
    rw [← List.append_assoc]
    exact ih _ List.length_append

end Search

/-- The images of a byte string are images that end with their first end marker. -/
lemma images_slices (data : Bytes) :
    ∀ span ∈ images data, ∃ body, ¬ marker endCode <:+: body ∧ span.slice data = image body :=
  (search_imagesFrom 0 data).slices [] rfl

variable {items : List PlacedImage}

/-- In images with what stands between them, the search finds the images. -/
lemma search_placed (plain : ∀ item ∈ items, item.IsPlain) (imageless : ∀ body, ¬ image body <:+: tail)
    (position : Nat) :
    Search position (items.flatMap PlacedImage.bytes ++ tail) (PlacedImage.spansFrom position items) := by
  induction items generalizing position with
  | nil =>
    rw [List.flatMap_nil, List.nil_append]
    rcases exists_first startCode tail with free | ⟨filler, behind, rfl, filler_free⟩
    · exact .ended free
    rcases exists_first endCode behind with free | ⟨body, rest, rfl, -⟩
    · exact .cutOff filler_free free
    · -- both markers are there, so the tail has an image
      refine absurd ⟨filler, rest, ?_⟩ (imageless body)
      simp only [image, List.append_assoc]
  | cons item items ih =>
    obtain ⟨first, others⟩ := List.forall_mem_cons.mp plain
    rw [List.flatMap_cons, List.append_assoc]
    exact .found first (ih others _)

/-- The spans of items that lie one behind the other cut out their images, whatever stands in front of them and behind
them. -/
lemma slices_placed (items : List PlacedImage) (before tail : Bytes) :
    ((PlacedImage.spansFrom before.length items).map fun span =>
      span.slice (before ++ (items.flatMap PlacedImage.bytes ++ tail))) =
        items.map fun item => image item.body := by
  induction items generalizing before with
  | nil => rfl
  | cons item items ih =>
    have later := ih (before ++ item.bytes)
    rw [List.length_append, List.append_assoc, ← List.append_assoc item.bytes] at later
    rw [PlacedImage.spansFrom, List.map_cons, List.map_cons, List.flatMap_cons, later, List.append_assoc,
      item.slice]

/-- Of images that were put one behind the other, with fillers that do not look like the start of an image and behind
them something without a whole image, exactly the images are found. In whatever data, the search for images ends and has
one outcome. It finds at most one image in four bytes, one behind the other, and each begins with a start marker and goes
on to the first end marker behind that. -/
theorem images_split :
    (∀ (items : List PlacedImage) (tail : Bytes), (∀ item ∈ items, item.IsPlain) →
      (∀ body, ¬ image body <:+: tail) →
      let data := items.flatMap PlacedImage.bytes ++ tail
      images data = PlacedImage.spansFrom 0 items ∧
        Span.slices (images data) data = items.map fun item => image item.body) ∧
    ∀ data : Bytes,
      (∀ spans, Search 0 data spans ↔ spans = images data) ∧ 4 * (images data).length ≤ data.length ∧
      ((images data).Pairwise fun one two => one.stop ≤ two.start) ∧
      ∀ span ∈ images data, span.stop ≤ data.length ∧
        ∃ body, ¬ marker endCode <:+: body ∧ span.slice data = image body := by
  constructor
  · intro items tail plain imageless data
    have found : images data = PlacedImage.spansFrom 0 items := (search_placed plain imageless 0).eq_imagesFrom.symm
    refine ⟨found, ?_⟩
    rw [Span.slices_eq_map, found]
    exact slices_placed items [] tail
  · intro data
    have search : Search 0 data (images data) := search_imagesFrom 0 data
    refine ⟨fun spans => ⟨Search.eq_imagesFrom, fun same => same ▸ search⟩, search.count_le, search.ordered, ?_⟩
    intro span among
    have inside := (search.within span among).2
    rw [Nat.zero_add] at inside
    exact ⟨inside, images_slices data span among⟩

/-- Images whose seams look like markers: a filler and a body that end in a byte of ones, a body that begins with the code
of an end marker, one that has a start marker, and an empty one. Behind them an image is cut off. -/
theorem images_split_seams :
    let items : List PlacedImage := [⟨[0xD8, 0xFF], [0xD9, 0xFF]⟩, ⟨[], [0xFF, 0xD8]⟩, ⟨[0xFF, 0xFF, 0xD9], []⟩]
    let tail : Bytes := [0xD9, 0xFF, 0xD8, 0xD9]
    let data := items.flatMap PlacedImage.bytes ++ tail
    (∀ item ∈ items, item.IsPlain) ∧ (∀ body, ¬ image body <:+: tail) ∧
      images data = [⟨2, 8⟩, ⟨8, 14⟩, ⟨17, 21⟩] ∧
      Span.slices (images data) data =
        [[0xFF, 0xD8, 0xD9, 0xFF, 0xFF, 0xD9], [0xFF, 0xD8, 0xFF, 0xD8, 0xFF, 0xD9], [0xFF, 0xD8, 0xFF, 0xD9]] := by
  intro items tail data
  have plain : ∀ item ∈ items, item.IsPlain := by
    simp only [items, List.forall_mem_cons, List.not_mem_nil, false_implies, implies_true, and_true]
    exact ⟨⟨by decide, by decide⟩, ⟨by decide, by decide⟩, by decide, by decide⟩
  have imageless : ∀ body, ¬ image body <:+: tail := by
    intro body inside
    have unended : ¬ marker endCode <:+: tail := by decide
    exact unended (((List.suffix_append body _).trans (List.suffix_append _ _)).isInfix.trans inside)
  obtain ⟨found, slices⟩ := images_split.1 items tail plain imageless
  exact ⟨plain, imageless, found, slices⟩

end VideoCapture.Frames
