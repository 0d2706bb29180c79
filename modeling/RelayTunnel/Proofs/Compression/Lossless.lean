import RelayTunnel.Compression.Compressor
import RelayTunnel.Proofs.Compression.BodyStream
import RelayTunnel.Proofs.Compression.Reading

/-!
# Nothing is lost in compression

`Streamed` says what a compressor has behind it: the bits given back so far and those it still keeps
read as the text of whole blocks, and the rest of the text is held. Every octet keeps this, so a
finished stream reads back as what was written, in whatever pieces (`isLossless`).
-/

set_option autoImplicit false

namespace RelayTunnel.Compression.Compressor

/-- A compressor that has given back `body` behind the header, for this text. -/
structure Streamed (coding : ContentCoding) (c : Compressor) (body text : Bytes) : Prop where
  coding : c.coding = coding
  room : c.held.size < blockSize
  reads : ∃ written : Array UInt8,
    (Bits.ofOctets body ++ c.bits).foldl Inflater.bit .start = ⟨.header [], false, written⟩ ∧
      text = (written ++ c.held).toList
  crc : c.crc = text.foldl Crc32.step Crc32.start
  adler : c.adler = text.foldl Adler32.step .start
  size : c.size = text.length

/-- A compressor that has been started has a header to put out and no text. -/
theorem streamed_start (coding : ContentCoding) : Streamed coding (start coding) [] [] where
  coding := rfl
  room := Nat.two_pow_pos 14
  reads := ⟨#[], rfl, rfl⟩
  crc := rfl
  adler := rfl
  size := rfl

/-- One more octet of text: it is held, or it fills a block that is given back. -/
theorem streamed_octet {coding : ContentCoding} {c : Compressor} {body text : Bytes}
    (h : Streamed coding c body text) {before header : Bytes} {out : List Bytes}
    (hout : before ++ out.reverse.flatten = header ++ body) (b : UInt8) :
    ∃ body', before ++ (octet (c, out) b).2.reverse.flatten = header ++ body' ∧
      Streamed coding (octet (c, out) b).1 body' (text ++ [b]) ∧
      (octet (c, out) b).1.opened = c.opened := by
  obtain ⟨hcoding, hroom, ⟨written, hread, htext⟩, hcrc, hadler, hsize⟩ := h
  have hcrc' : Crc32.step c.crc b = (text ++ [b]).foldl Crc32.step Crc32.start := by
    rw [List.foldl_append, hcrc]
    rfl
  have hadler' : c.adler.step b = (text ++ [b]).foldl Adler32.step .start := by
    rw [List.foldl_append, hadler]
    rfl
  have hsize' : c.size + 1 = (text ++ [b]).length := by
    rw [List.length_append, hsize]
    rfl
  have htext' : text ++ [b] = (written ++ c.held.push b).toList := by
    rw [htext]
    simp
  rw [octet]
  dsimp only
  split
  · next hheld =>
    exact ⟨body, hout, ⟨hcoding, hheld, ⟨written, hread, htext'⟩, hcrc', hadler', hsize'⟩, rfl⟩
  · next hfull =>
    have hblock : (c.held.push b).size ≤ maxDistance := by
      rw [Array.size_push]
      exact Nat.le_trans hroom (by decide)
    obtain ⟨hpacked, _⟩ := Bits.pack_spec (c.bits ++ blockBits false (c.held.push b))
    refine ⟨body ++ (Bits.pack (c.bits ++ blockBits false (c.held.push b))).1, ?_,
      ⟨hcoding, Nat.two_pow_pos 14, ⟨written ++ c.held.push b, ?_, ?_⟩, hcrc', hadler', hsize'⟩, rfl⟩
    · rw [List.reverse_cons, List.flatten_append, ← List.append_assoc, hout]
      simp
    · rw [Bits.ofOctets_append, List.append_assoc, hpacked, ← List.append_assoc, List.foldl_append,
        hread, Inflater.foldl_bit_blockBits hblock rfl]
      rfl
    · rw [htext']
      simp

/-- Octet by octet, what has been put out stays a stream of the text so far. -/
theorem streamed_foldl_octet {coding : ContentCoding} {c : Compressor} {body text : Bytes}
    (h : Streamed coding c body text) {before header : Bytes} {out : List Bytes}
    (hout : before ++ out.reverse.flatten = header ++ body) (data : Bytes) :
    ∃ body', before ++ (data.foldl octet (c, out)).2.reverse.flatten = header ++ body' ∧
      Streamed coding (data.foldl octet (c, out)).1 body' (text ++ data) ∧
      (data.foldl octet (c, out)).1.opened = c.opened := by
  induction data generalizing c out body text with
  | nil => exact ⟨body, hout, by rwa [List.append_nil], rfl⟩
  | cons b data ih =>
    obtain ⟨body', hout', h', hopened'⟩ := streamed_octet h hout b
    obtain ⟨body'', hout'', h'', hopened''⟩ := ih h' hout'
    rw [List.append_assoc] at h''
    exact ⟨body'', hout'', h'', hopened''.trans hopened'⟩

/-- What a compressor has given back in all: nothing, or the header and what is behind it. -/
structure Emitted (coding : ContentCoding) (c : Compressor) (octets text : Bytes) : Prop where
  streamed : ∃ body, octets = (if c.opened then header coding else []) ++ body ∧
    (c.opened = false → body = []) ∧ Streamed coding c body text

/-- A compressor that has been started has put nothing out. -/
theorem emitted_start (coding : ContentCoding) : Emitted coding (start coding) [] [] :=
  ⟨[], rfl, fun _ => rfl, streamed_start coding⟩

/-- Before or after the header, what is given back next begins with what is missing of it. -/
theorem Emitted.with_opening {coding : ContentCoding} {c : Compressor} {octets text : Bytes}
    (h : Emitted coding c octets text) :
    ∃ body, octets ++ (if c.opened then [] else header c.coding) = header coding ++ body ∧
      Streamed coding c body text := by
  obtain ⟨body, rfl, hunopened, hstreamed⟩ := h.streamed
  refine ⟨body, ?_, hstreamed⟩
  cases hopened : c.opened with
  | true => simp
  | false =>
    rw [hunopened hopened, hstreamed.coding]
    simp

/-- What is written is put out or held back. -/
theorem emitted_write {coding : ContentCoding} {c : Compressor} {octets text : Bytes}
    (h : Emitted coding c octets text) (data : Bytes) :
    Emitted coding (c.write data).2 (octets ++ (c.write data).1) (text ++ data) := by
  obtain ⟨body, hopening, hstreamed⟩ := h.with_opening
  have hopened : Streamed coding { c with opened := true } body text :=
    ⟨hstreamed.coding, hstreamed.room, hstreamed.reads, hstreamed.crc, hstreamed.adler,
      hstreamed.size⟩
  have hout : octets ++ [if c.opened then [] else header c.coding].reverse.flatten =
      header coding ++ body := by
    simpa using hopening
  obtain ⟨body', hout', hstreamed', hopened'⟩ := streamed_foldl_octet hopened hout data
  refine ⟨body', ?_, ?_, hstreamed'⟩
  · show octets ++ _ = (if (data.foldl octet _).1.opened then _ else _) ++ body'
    rw [hopened', if_pos rfl]
    exact hout'
  · intro hclosed
    exact absurd (hclosed.symm.trans hopened') Bool.false_ne_true

/-- The compressed text, filled up to whole octets, reads back, and reading stops right behind it. -/
theorem inflate?_streamed {coding : ContentCoding} {c : Compressor} {body text : Bytes}
    (h : Streamed coding c body text) (rest : Bytes) :
    inflate? (body ++ Bits.packAll (c.bits ++ blockBits true c.held) ++ rest) =
      some (text, rest) := by
  obtain ⟨written, hread, htext⟩ := h.reads
  have hheld : c.held.size ≤ maxDistance := Nat.le_trans (Nat.le_of_lt h.room) (by decide)
  obtain ⟨missing, hmissing, hpacked⟩ := Bits.ofOctets_packAll (c.bits ++ blockBits true c.held)
  have hbits : Bits.ofOctets (body ++ Bits.packAll (c.bits ++ blockBits true c.held)) =
      (Bits.ofOctets body ++ c.bits ++ Inflater.blockFront true c.held)
        ++ false :: List.replicate missing false := by
    rw [Bits.ofOctets_append, hpacked, Inflater.blockBits_eq]
    simp only [List.append_assoc, List.cons_append, List.nil_append]
  have hfront : (Bits.ofOctets body ++ c.bits ++ Inflater.blockFront true c.held).foldl
      Inflater.bit .start = ⟨.symbol 6 0, true, written ++ c.held⟩ := by
    rw [List.foldl_append, hread, Inflater.foldl_bit_blockFront hheld rfl]
  have hrun := Inflater.run_append (s := .start) hbits (by rwa [List.length_replicate])
    (by rw [hfront]; rfl) (by rw [hfront]; rfl) rest
  rw [hfront] at hrun
  rw [inflate?, hrun, htext]
  rfl

/-- A finished stream reads back as the text that was written. -/
theorem decompress?_finish {coding : ContentCoding} {c : Compressor} {octets text : Bytes}
    (h : Emitted coding c octets text) : decompress? coding (octets ++ c.finish) = some text := by
  obtain ⟨body, hopening, hstreamed⟩ := h.with_opening
  have hstream : octets ++ c.finish = header coding ++
      (body ++ Bits.packAll (c.bits ++ blockBits true c.held) ++ c.trailer) := by
    rw [finish, ← List.append_assoc, ← List.append_assoc, hopening]
    simp only [List.append_assoc]
  rw [hstream, decompress?]
  dsimp only
  rw [List.take_left, List.drop_left, inflate?_streamed hstreamed, trailer, hstreamed.coding,
    hstreamed.crc, hstreamed.adler, hstreamed.size]
  cases coding with
  | gzip => simp
  | deflate => simp

/-- Whatever pieces a body is written in, it reads back. -/
theorem isLossless : BodyCompressor.IsLossless Compressor decompress? := by
  intro coding pieces
  -- writing pieces from any point on adds them to the text
  have hwriteAll : ∀ (c : Compressor) (octets text : Bytes), Emitted coding c octets text →
      Emitted coding (BodyCompressor.writeAll c pieces).2
        (octets ++ (BodyCompressor.writeAll c pieces).1.flatten) (text ++ pieces.flatten) := by
    induction pieces with
    | nil =>
      intro c octets text h
      simpa using h
    | cons data pieces ih =>
      intro c octets text h
      have hrest := ih _ _ _ (emitted_write h data)
      rw [List.append_assoc, List.append_assoc] at hrest
      exact hrest
  have hemitted := hwriteAll (start coding) [] [] (emitted_start coding)
  have hfinish := decompress?_finish hemitted
  rw [BodyCompressor.outputs, List.flatten_append, List.flatten_singleton]
  exact hfinish

end RelayTunnel.Compression.Compressor
