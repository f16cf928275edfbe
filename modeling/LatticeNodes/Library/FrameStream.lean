import Mathlib.Data.List.Basic

/-!
# Length-prefixed frames in a stream

A frame is a header of two symbols that stand for the length of the payload, and the payload.
`payloads` reads a whole stream; a header whose length is not admitted is skipped.  `Reader` takes
one symbol at a time and may be interrupted anywhere, since `feedAll` of two lists is `feedAll` of
the first and then of the second.  `feedAll_first` says that both find the same payloads.
-/

set_option autoImplicit false

namespace FrameStream

/-- How a header is read, and the longest payload. -/
structure Format (β : Type*) where
  lengthOf : β → β → ℕ
  limit : ℕ

variable {β : Type*} (fmt : Format β)

def Format.Admits (n : ℕ) : Prop := 1 ≤ n ∧ n ≤ fmt.limit

instance (n : ℕ) : Decidable (fmt.Admits n) :=
  inferInstanceAs (Decidable (1 ≤ n ∧ n ≤ fmt.limit))

/-- The payloads of a stream.  A frame that the stream cuts off has none. -/
def payloads : List β → List (List β)
  | a :: b :: rest =>
      let n := fmt.lengthOf a b
      if fmt.Admits n then
        if n ≤ rest.length then rest.take n :: payloads (rest.drop n) else []
      else payloads rest
  | _ => []
termination_by stream => stream.length
decreasing_by
  · simp only [List.length_drop, List.length_cons]
    omega
  · simp only [List.length_cons]
    omega

section Payloads

variable {fmt} {a b : β}

/-- No bytes hold no frame. -/
@[simp] theorem payloads_nil : payloads fmt [] = [] := by
  rw [payloads]
  simp

/-- Half of a length holds no frame. -/
@[simp] theorem payloads_singleton : payloads fmt [a] = [] := by
  rw [payloads]
  simp

/-- A header that is not admitted is skipped, and nothing else. -/
theorem payloads_skip (h : ¬fmt.Admits (fmt.lengthOf a b)) (rest : List β) :
    payloads fmt (a :: b :: rest) = payloads fmt rest := by
  rw [payloads]
  exact if_neg h

/-- A frame that is cut off is no frame. -/
theorem payloads_cut (h : fmt.Admits (fmt.lengthOf a b)) {rest : List β}
    (hshort : rest.length < fmt.lengthOf a b) : payloads fmt (a :: b :: rest) = [] := by
  rw [payloads]
  simp only [if_pos h, if_neg (Nat.not_le.mpr hshort)]

/-- A frame in front of a stream is its first payload. -/
theorem payloads_frame (h : fmt.Admits (fmt.lengthOf a b)) {payload : List β}
    (hlength : fmt.lengthOf a b = payload.length) (rest : List β) :
    payloads fmt (a :: b :: (payload ++ rest)) = payload :: payloads fmt rest := by
  have hfits : payload.length ≤ (payload ++ rest).length := by
    rw [List.length_append]
    omega
  rw [payloads]
  simp only [if_pos h]
  rw [hlength, if_pos hfits, List.take_left, List.drop_left]

/-- **A stream of frames has their payloads, in order.** -/
theorem payloads_flatMap {encode : List β → List β} (frames : List (List β))
    (h : ∀ payload ∈ frames, fmt.Admits payload.length ∧
      ∃ a b, encode payload = a :: b :: payload ∧ fmt.lengthOf a b = payload.length) :
    payloads fmt (frames.flatMap encode) = frames := by
  induction frames with
  | nil => exact payloads_nil
  | cons payload frames ih =>
      obtain ⟨hadmits, a, b, hencode, hlength⟩ := h payload List.mem_cons_self
      have hrest := ih fun p hp => h p (List.mem_cons_of_mem _ hp)
      rw [List.flatMap_cons, hencode, List.cons_append, List.cons_append,
        payloads_frame (hlength ▸ hadmits) hlength, hrest]

end Payloads

/-! ## The reader -/

/-- What was read since the last complete frame: nothing, half a header, or the length that the
header stands for and the first symbols of the payload. -/
inductive Reader (β : Type*) where
  | first
  | second (a : β)
  | payload (n : ℕ) (got : List β)

namespace Reader

/-- One symbol, which may complete a payload. -/
def feed : Reader β → β → Reader β × Option (List β)
  | first, a => (second a, none)
  | second a, b =>
      if fmt.Admits (fmt.lengthOf a b) then (payload (fmt.lengthOf a b) [], none)
      else (first, none)
  | payload n got, c =>
      if n ≤ got.length + 1 then (first, some (got ++ [c])) else (payload n (got ++ [c]), none)

def feedAll (r : Reader β) : List β → Reader β × List (List β)
  | [] => (r, [])
  | c :: cs =>
      let fed := r.feed fmt c
      let rest := fed.1.feedAll cs
      (rest.1, fed.2.toList ++ rest.2)

section Feed

variable {fmt} {r : Reader β}

/-- A stream may come in pieces: the reader goes on where it was. -/
theorem feedAll_append (r : Reader β) (xs ys : List β) :
    r.feedAll fmt (xs ++ ys) =
      (((r.feedAll fmt xs).1.feedAll fmt ys).1,
        (r.feedAll fmt xs).2 ++ ((r.feedAll fmt xs).1.feedAll fmt ys).2) := by
  induction xs generalizing r with
  | nil => rfl
  | cons x xs ih =>
      rw [List.cons_append, feedAll, ih]
      simp only [feedAll, List.append_assoc]

/-- One symbol more. -/
theorem feedAll_concat (r : Reader β) (xs : List β) (c : β) :
    r.feedAll fmt (xs ++ [c]) =
      (((r.feedAll fmt xs).1.feed fmt c).1,
        (r.feedAll fmt xs).2 ++ ((r.feedAll fmt xs).1.feed fmt c).2.toList) := by
  rw [feedAll_append]
  simp [feedAll]

/-- Too few symbols do not complete a payload. -/
theorem feedAll_payload_short {n : ℕ} {got more : List β} (h : got.length + more.length < n) :
    (payload n got).feedAll fmt more = (payload n (got ++ more), []) := by
  induction more generalizing got with
  | nil => simp [feedAll]
  | cons c more ih =>
      rw [List.length_cons] at h
      have hmore : ¬n ≤ got.length + 1 := by omega
      have hrest : (got ++ [c]).length + more.length < n := by
        rw [List.length_append, List.length_singleton]
        omega
      rw [feedAll, feed, if_neg hmore]
      simp [ih hrest]

/-- The last missing symbol completes it. -/
theorem feedAll_payload {n : ℕ} {got more : List β} (h : got.length + more.length = n)
    (hmore : more ≠ []) (rest : List β) :
    (payload n got).feedAll fmt (more ++ rest) =
      ((feedAll fmt first rest).1, (got ++ more) :: (feedAll fmt first rest).2) := by
  obtain ⟨front, c, rfl⟩ := List.eq_nil_or_concat' more |>.resolve_left hmore
  rw [List.length_append, List.length_singleton] at h
  have hlast : n ≤ (got ++ front).length + 1 := by
    rw [List.length_append]
    omega
  rw [List.append_assoc, feedAll_append, feedAll_payload_short (by omega)]
  simp only [List.singleton_append, feedAll, feed, if_pos hlast, List.nil_append,
    Option.toList_some, List.append_assoc]

section Header

variable {a b : β}

/-- An admitted length makes the reader wait for that many bytes. -/
theorem feedAll_header (h : fmt.Admits (fmt.lengthOf a b)) (rest : List β) :
    feedAll fmt first (a :: b :: rest) = feedAll fmt (payload (fmt.lengthOf a b) []) rest := by
  have hsecond : (second a).feed fmt b = (payload (fmt.lengthOf a b) [], none) := if_pos h
  rw [feedAll, feed, feedAll, hsecond]
  rfl

/-- A length that is not admitted is skipped with both its bytes. -/
theorem feedAll_skip (h : ¬fmt.Admits (fmt.lengthOf a b)) (rest : List β) :
    feedAll fmt first (a :: b :: rest) = feedAll fmt first rest := by
  have hsecond : (second a).feed fmt b = (first, none) := if_neg h
  rw [feedAll, feed, feedAll, hsecond]
  rfl

end Header

/-- **The reader finds the payloads of the stream.** -/
theorem feedAll_first (stream : List β) :
    (feedAll fmt first stream).2 = payloads fmt stream := by
  induction stream using payloads.induct fmt with
  | case1 a b rest n hadmits hfits ih =>
      have hlength : (rest.take n).length = n := List.length_take_of_le hfits
      have hsome : rest.take n ≠ [] := by
        intro hnil
        rw [hnil, List.length_nil] at hlength
        have hpositive : 1 ≤ n := hadmits.1
        omega
      have hsplit := @feedAll_payload _ fmt n [] (rest.take n) (by simpa using hlength) hsome
        (rest.drop n)
      have hframe := payloads_frame hadmits hlength.symm (rest.drop n)
      rw [List.take_append_drop] at hsplit hframe
      rw [feedAll_header hadmits, hsplit, ih, hframe]
      rfl
  | case2 a b rest n hadmits hcut =>
      have hshort : rest.length < n := Nat.not_le.mp hcut
      rw [feedAll_header hadmits, feedAll_payload_short (by simpa using hshort),
        payloads_cut hadmits hshort]
  | case3 a b rest n hskip ih => rw [payloads_skip hskip, feedAll_skip hskip, ih]
  | case4 stream hshort =>
      cases stream with
      | nil =>
          rw [payloads_nil]
          rfl
      | cons a stream =>
          cases stream with
          | nil =>
              rw [payloads_singleton]
              rfl
          | cons b rest => exact absurd rfl (hshort a b rest)

end Feed

end Reader

end FrameStream
