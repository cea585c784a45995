import SigVal.Lib.Java

/-!
# Streams that are read through a buffer

A read from an `InputStream` returns some of the bytes that come next, at least one until
the end. A `BufferedInputStream` reads ahead: it asks the stream behind it for as much as
its buffer holds. What it has taken stays with it. Resetting it to a mark gives the bytes
back to its own readers, not to those of the stream behind it.
-/

namespace SigVal.Java

/-- What one read can return at the most, and whether `available` tells of it before. -/
structure Chunk where
  bytes : Bytes
  nonempty : bytes ≠ []
  announced : Bool

/-- The bytes that are still to be read. A broken stream throws instead of reporting its
end. -/
structure InputStream where
  chunks : List Chunk
  broken : Bool

namespace InputStream

def content (is : InputStream) : Bytes := is.chunks.flatMap (·.bytes)

/-- `new ByteArrayInputStream(bytes)`. -/
def ofBytes (bytes : Bytes) : InputStream where
  chunks := if h : bytes = [] then [] else [⟨bytes, h, true⟩]
  broken := false

/-- `read(b, off, len)` for a positive `len`; at the end no bytes stand for -1. -/
def read (is : InputStream) (len : Nat) : Outcome (Bytes × InputStream) :=
  match is.chunks with
  | [] => if is.broken then .error ⟨.io, "Stream broken"⟩ else .ok ([], is)
  | chunk :: rest =>
      if h : chunk.bytes.length ≤ len then .ok (chunk.bytes, { is with chunks := rest })
      else
        let left : Chunk := ⟨chunk.bytes.drop len, by simpa using h, chunk.announced⟩
        .ok (chunk.bytes.take len, { is with chunks := left :: rest })

/-- `available() > 0`. -/
def available (is : InputStream) : Bool := is.chunks.head?.any (·.announced)

@[simp] theorem content_ofBytes (bytes : Bytes) : (ofBytes bytes).content = bytes := by
  unfold content ofBytes
  split
  · rename_i hnil
    rw [hnil]
    rfl
  · exact List.flatMap_singleton _ _

/-- What a read does: it takes what it returns off the front. -/
structure Took (is rest : InputStream) (len : Nat) (bytes : Bytes) : Prop where
  content : is.content = bytes ++ rest.content
  length_le : bytes.length ≤ len
  broken : rest.broken = is.broken

theorem read_took {is rest : InputStream} {len : Nat} {bytes : Bytes}
    (h : is.read len = .ok (bytes, rest)) : Took is rest len bytes := by
  unfold read at h
  cases hchunks : is.chunks with
  | nil =>
      rw [hchunks] at h
      dsimp only at h
      split at h
      · cases h
      · cases h
        exact ⟨rfl, Nat.zero_le _, rfl⟩
  | cons chunk chunks =>
      rw [hchunks] at h
      dsimp only at h
      split at h
      · rename_i hle
        cases h
        refine ⟨?_, hle, rfl⟩
        unfold content
        rw [hchunks, List.flatMap_cons]
      · cases h
        refine ⟨?_, List.length_take_le _ _, rfl⟩
        unfold content
        rw [hchunks, List.flatMap_cons, List.flatMap_cons, ← List.append_assoc,
          List.take_append_drop]

/-- The next chunk is read as far as it is asked for. -/
theorem read_chunk {is : InputStream} {chunk : Chunk} {rest : List Chunk}
    (hchunks : is.chunks = chunk :: rest) (len : Nat) :
    ∃ last, is.read len = .ok (chunk.bytes.take len, last) ∧
      (chunk.bytes.length ≤ len → last.chunks = rest) := by
  unfold read
  rw [hchunks]
  dsimp only
  split
  · rename_i hfits
    rw [List.take_of_length_le hfits]
    exact ⟨_, rfl, fun _ => rfl⟩
  · rename_i hlong
    exact ⟨_, rfl, fun hfits => absurd hfits hlong⟩

end InputStream

/-- A buffered stream since its mark: the stream behind it, what it has read ahead, and how
much of this was returned. As long as no more than the mark allows is read, the buffer has
room for it. -/
structure BufferedInputStream where
  input : InputStream
  buffer : Bytes
  pos : Nat

namespace BufferedInputStream

/-- The default size of the buffer. -/
def capacity : Nat := 8192

/-- A new buffered stream that is marked at once. -/
def marked (is : InputStream) : BufferedInputStream := ⟨is, [], 0⟩

/-- Reads on behind what was returned. -/
def fill (input : BufferedInputStream) : Outcome BufferedInputStream := do
  let (bytes, rest) ← input.input.read (capacity - input.pos)
  pure { input with input := rest, buffer := input.buffer ++ bytes }

/-- The buffer is filled when everything in it was returned. -/
def ensureFilled (input : BufferedInputStream) : Outcome BufferedInputStream :=
  if input.pos < input.buffer.length then .ok input else input.fill

/-- Returns what is in the buffer. -/
def read1 (input : BufferedInputStream) (len : Nat) : Outcome (Bytes × BufferedInputStream) := do
  let filled ← input.ensureFilled
  let bytes := (filled.buffer.drop filled.pos).take len
  pure (bytes, { filled with pos := filled.pos + bytes.length })

/-- `read(b)` goes on while the stream behind has bytes available. -/
def read (input : BufferedInputStream) (len : Nat) : Outcome (Bytes × BufferedInputStream) :=
  match input.read1 len with
  | .error ex => .error ex
  | .ok (bytes, next) =>
      if _hend : bytes = [] then .ok ([], next)
      else if _hfull : len ≤ bytes.length then .ok (bytes, next)
      else if next.input.available then do
        let (more, last) ← read next (len - bytes.length)
        pure (bytes ++ more, last)
      else .ok (bytes, next)
termination_by len
decreasing_by
  have hpos := List.length_pos_iff.mpr _hend
  omega

/-- What was returned is in the buffer, and the buffer has its size. -/
structure Sound (input : BufferedInputStream) : Prop where
  pos_le : input.pos ≤ input.buffer.length
  length_le : input.buffer.length ≤ capacity

/-- What a read does: nothing is lost between the buffer and the stream behind it, and what
was returned are the bytes of the buffer in their order. -/
structure Returned (input last : BufferedInputStream) (bytes : Bytes) : Prop where
  sound : last.Sound
  content : last.buffer ++ last.input.content = input.buffer ++ input.input.content
  returned : last.buffer.take last.pos = input.buffer.take input.pos ++ bytes
  broken : last.input.broken = input.input.broken

theorem Returned.trans {input next last : BufferedInputStream} {bytes more : Bytes}
    (h : Returned input next bytes) (h' : Returned next last more) :
    Returned input last (bytes ++ more) where
  sound := h'.sound
  content := h'.content.trans h.content
  returned := by rw [h'.returned, h.returned, List.append_assoc]
  broken := h'.broken.trans h.broken

theorem ensureFilled_returned {input filled : BufferedInputStream} (hsound : input.Sound)
    (h : input.ensureFilled = .ok filled) :
    Returned input filled [] ∧ filled.pos = input.pos := by
  unfold ensureFilled at h
  split at h
  · cases h
    exact ⟨⟨hsound, rfl, (List.append_nil _).symm, rfl⟩, rfl⟩
  · rename_i hall
    obtain ⟨⟨bytes, rest⟩, hread, h⟩ := bind_ok_iff.mp h
    cases h
    have htook := InputStream.read_took hread
    have hle := htook.length_le
    have hpos := hsound.pos_le
    have hroom := hsound.length_le
    refine ⟨⟨⟨?_, ?_⟩, ?_, ?_, htook.broken⟩, rfl⟩
    · show input.pos ≤ (input.buffer ++ bytes).length
      rw [List.length_append]
      omega
    · show (input.buffer ++ bytes).length ≤ capacity
      rw [List.length_append]
      omega
    · show (input.buffer ++ bytes) ++ rest.content = _
      rw [htook.content, List.append_assoc]
    · show (input.buffer ++ bytes).take input.pos = _
      rw [List.take_append_of_le_length hpos, List.append_nil]

theorem read1_returned {input next : BufferedInputStream} {len : Nat} {bytes : Bytes}
    (hsound : input.Sound) (h : input.read1 len = .ok (bytes, next)) :
    Returned input next bytes := by
  obtain ⟨filled, hfilled, h⟩ := bind_ok_iff.mp h
  obtain ⟨hreturned, -⟩ := ensureFilled_returned hsound hfilled
  cases h
  have hle : ((filled.buffer.drop filled.pos).take len).length ≤
      filled.buffer.length - filled.pos := by
    rw [List.length_take, List.length_drop]
    omega
  have hpos := hreturned.sound.pos_le
  refine ⟨⟨?_, hreturned.sound.length_le⟩, hreturned.content, ?_, hreturned.broken⟩
  · show filled.pos + _ ≤ filled.buffer.length
    omega
  · have hbefore := hreturned.returned
    rw [List.append_nil] at hbefore
    show filled.buffer.take (filled.pos + _) = _
    rw [List.take_add, hbefore, List.length_take, ← List.take_eq_take_min]

theorem read_returned {len : Nat} :
    ∀ {input last : BufferedInputStream} {bytes : Bytes}, input.Sound →
      input.read len = .ok (bytes, last) → Returned input last bytes := by
  induction len using Nat.strong_induction_on with
  | _ len ih =>
      intro input last bytes hsound h
      rw [read] at h
      cases hread : input.read1 len with
      | error ex =>
          rw [hread] at h
          cases h
      | ok result =>
          obtain ⟨first, next⟩ := result
          rw [hread] at h
          dsimp only at h
          have hnext := read1_returned hsound hread
          split at h
          · rename_i hend
            cases h
            rwa [hend] at hnext
          · rename_i hend
            split at h
            · cases h
              exact hnext
            · split at h
              · obtain ⟨⟨more, rest⟩, hmore, h⟩ := bind_ok_iff.mp h
                cases h
                have hpos := List.length_pos_iff.mpr hend
                exact hnext.trans (ih _ (by omega) hnext.sound hmore)
              · cases h
                exact hnext

/-- A read from the start returns the first bytes, and what it has read ahead is gone from
the stream behind. -/
theorem read_marked {is : InputStream} {len : Nat} {bytes : Bytes} {last : BufferedInputStream}
    (h : (marked is).read len = .ok (bytes, last)) :
    bytes = is.content.take bytes.length ∧
      last.input.content = is.content.drop last.buffer.length ∧
      last.input.broken = is.broken ∧ bytes.length ≤ last.buffer.length ∧
      last.buffer.length ≤ capacity := by
  have hreturned : Returned (marked is) last bytes :=
    read_returned ⟨Nat.le_refl _, Nat.zero_le _⟩ h
  have hcontent : last.buffer ++ last.input.content = is.content := hreturned.content
  have hbytes : last.buffer.take last.pos = bytes := hreturned.returned
  have hpos : bytes.length = last.pos := by
    rw [← hbytes, List.length_take, Nat.min_eq_left hreturned.sound.pos_le]
  refine ⟨?_, ?_, hreturned.broken, ?_, hreturned.sound.length_le⟩
  · rw [← hcontent, hpos, List.take_append_of_le_length hreturned.sound.pos_le, hbytes]
  · rw [← hcontent, List.drop_left]
  · rw [hpos]
    exact hreturned.sound.pos_le

/-! ### How far is read ahead -/

/-- How many bytes have been taken from chunks, once there are `len` of them: a chunk as far
as it fits, and the next one if it is announced. -/
def readAhead (len taken : Nat) : List Chunk → Option Nat
  | [] => none
  | chunk :: rest =>
      if len ≤ taken + chunk.bytes.length then
        some (taken + min (capacity - taken) chunk.bytes.length)
      else if rest.head?.any (·.announced) then readAhead len (taken + chunk.bytes.length) rest
      else none

/-- What the buffer holds when a read has returned all that was asked for. -/
def held (need : Nat) : Outcome (Bytes × BufferedInputStream) → Option Nat
  | .error _ => none
  | .ok (bytes, last) => if bytes.length < need then none else some last.buffer.length

/-- The next chunk arrives: it is buffered as far as it fits, and returned as far as it is
asked for. -/
structure Arrived (input next : BufferedInputStream) (chunk : Chunk) (rest : List Chunk)
    (need : Nat) : Prop where
  buffer : next.buffer.length =
    input.buffer.length + min (capacity - input.pos) chunk.bytes.length
  pos : next.pos = input.pos + (chunk.bytes.take need).length
  input : chunk.bytes.length ≤ capacity - input.pos → next.input.chunks = rest

theorem read1_chunk {input : BufferedInputStream} {chunk : Chunk} {rest : List Chunk}
    (hpos : input.pos = input.buffer.length) (hchunks : input.input.chunks = chunk :: rest)
    {need : Nat} (hroom : input.pos + need ≤ capacity) :
    ∃ next, input.read1 need = .ok (chunk.bytes.take need, next) ∧
      Arrived input next chunk rest need := by
  obtain ⟨last, hread, hlast⟩ := InputStream.read_chunk hchunks (capacity - input.pos)
  have hall : ¬ input.pos < input.buffer.length := by omega
  have hreturned : ((input.buffer ++ chunk.bytes.take (capacity - input.pos)).drop
      input.pos).take need = chunk.bytes.take need := by
    rw [hpos, List.drop_left, List.take_take, Nat.min_eq_left (by omega)]
  unfold read1 ensureFilled
  rw [if_neg hall]
  unfold fill
  rw [hread]
  refine ⟨_, congrArg Except.ok (Prod.ext hreturned rfl), ?_, ?_, hlast⟩
  · show (input.buffer ++ _).length = _
    rw [List.length_append, List.length_take]
  · show input.pos + _ = _
    rw [hreturned]

/-- Where everything was returned and no chunk is left, nothing is returned. -/
theorem read1_end {input : BufferedInputStream} (hpos : input.pos = input.buffer.length)
    (hchunks : input.input.chunks = []) (need : Nat) :
    (∃ ex, input.read1 need = .error ex) ∨ ∃ next, input.read1 need = .ok ([], next) := by
  have hall : ¬ input.pos < input.buffer.length := by omega
  have hnone : ((input.buffer ++ []).drop input.pos).take need = [] := by
    rw [List.append_nil, hpos, List.drop_length, List.take_nil]
  unfold read1 ensureFilled
  rw [if_neg hall]
  unfold fill InputStream.read
  rw [hchunks]
  dsimp only
  split
  · exact .inl ⟨_, rfl⟩
  · exact .inr ⟨_, congrArg Except.ok (Prod.ext hnone rfl)⟩

/-- What was returned before is not asked for any more. -/
theorem held_bind {bytes : Bytes} {need : Nat} (hle : bytes.length ≤ need)
    (outcome : Outcome (Bytes × BufferedInputStream)) :
    held need (do
      let (more, last) ← outcome
      pure (bytes ++ more, last)) = held (need - bytes.length) outcome := by
  cases outcome with
  | error ex => rfl
  | ok result =>
      obtain ⟨more, last⟩ := result
      show (if (bytes ++ more).length < need then none else some last.buffer.length) =
        if more.length < need - bytes.length then none else some last.buffer.length
      rw [List.length_append]
      by_cases hshort : more.length < need - bytes.length
      · rw [if_pos hshort, if_pos (by omega)]
      · rw [if_neg hshort, if_neg (by omega)]

/-- A read from where everything was returned has read ahead as far as the chunks go. -/
theorem held_read (chunks : List Chunk) :
    ∀ {input : BufferedInputStream} {need : Nat}, input.pos = input.buffer.length →
      input.input.chunks = chunks → 0 < need → input.pos + need ≤ capacity →
      held need (input.read need) = readAhead (input.pos + need) input.pos chunks := by
  induction chunks with
  | nil =>
      intro input need hpos hchunks hneed hroom
      rw [read]
      rcases read1_end hpos hchunks need with ⟨ex, hread⟩ | ⟨next, hread⟩
      · rw [hread]
        rfl
      · rw [hread]
        exact if_pos hneed
  | cons chunk rest ih =>
      intro input need hpos hchunks hneed hroom
      obtain ⟨next, hread, harrived⟩ := read1_chunk hpos hchunks hroom
      have hchunk := List.length_pos_iff.mpr chunk.nonempty
      have hsome : chunk.bytes.take need ≠ [] := by
        rw [← List.length_pos_iff, List.length_take]
        omega
      rw [read, hread]
      dsimp only
      rw [dif_neg hsome]
      unfold readAhead
      by_cases hall : need ≤ chunk.bytes.length
      · rw [dif_pos (by rw [List.length_take]; omega), if_pos (by omega)]
        show (if (chunk.bytes.take need).length < need then none else some next.buffer.length) = _
        rw [if_neg (by rw [List.length_take]; omega), harrived.buffer, hpos]
      · have hfits : chunk.bytes.length ≤ need := by omega
        have hshort : ¬ input.pos + need ≤ input.pos + chunk.bytes.length := by omega
        obtain ⟨hbuffer, hnext, hrest⟩ := harrived
        rw [List.take_of_length_le hfits] at hnext ⊢
        rw [Nat.min_eq_right (by omega)] at hbuffer
        replace hrest := hrest (by omega)
        rw [dif_neg hall, if_neg hshort]
        unfold InputStream.available
        rw [hrest]
        split
        · rw [held_bind hfits, ih (by omega) hrest (by omega) (by omega), hnext]
          congr 1
          omega
        · exact if_pos (by omega)

theorem held_read_marked (is : InputStream) {len : Nat} (hlen : 0 < len) (hle : len ≤ capacity) :
    held len ((marked is).read len) = readAhead len 0 is.chunks := by
  have hheld : held len ((marked is).read len) = readAhead (0 + len) 0 is.chunks :=
    held_read is.chunks rfl rfl hlen (by show 0 + len ≤ _; omega)
  rwa [Nat.zero_add] at hheld

/-- Of an array the whole buffer is filled. -/
theorem readAhead_ofBytes (bytes : Bytes) {len : Nat} (hlen : 0 < len) :
    readAhead len 0 (InputStream.ofBytes bytes).chunks =
      if bytes.length < len then none else some (min capacity bytes.length) := by
  unfold InputStream.ofBytes
  split
  · rename_i hnil
    rw [if_pos (by rw [hnil]; exact hlen)]
    rfl
  · show (if len ≤ 0 + bytes.length then some (0 + min (capacity - 0) bytes.length) else none) = _
    rw [Nat.zero_add, Nat.zero_add, Nat.sub_zero]
    by_cases hshort : bytes.length < len
    · rw [if_neg (by omega), if_pos hshort]
    · rw [if_pos (by omega), if_neg hshort]

end BufferedInputStream

end SigVal.Java
