import Windmill.Sql.Builder
import Mathlib.Data.List.Infix

/-!
# The result-stream lines of the native TypeScript runtime

When `main` returns an async iterable, the entry script that `execute_main` writes
(`windmill-runtime-nativets/src/lib.rs`) logs every yielded chunk as one line

    console.log("WM_STREAM: " + chunk.replace(/\n/g, '\\n'))

and the host reads lines with that prefix back as stream chunks, unescaping `\n` to a newline.
`streamLine` is the logged line.  The host's decoder lives outside this repository; `decodeLine`
follows the protocol's own description of it.

Escaping only the newline makes the encoding lose information: a chunk holding a newline and a
chunk holding a backslash followed by `n` are logged alike.  On chunks with no backslash before
an `n` the line always decodes back to the chunk, so there the encoding is injective.
-/

namespace Windmill.Nativets

open Windmill.Sql

/-- The log prefix of a stream chunk. -/
def streamPrefix : String := "WM_STREAM: "

/-- The line the entry script logs for a yielded chunk. -/
def streamLine (chunk : String) : String :=
  streamPrefix ++ strReplace chunk '\n' "\\n"

/-- Modelled from the spec: unescaping `\n` to a newline, left to right, as the host's decoder
`extract_stream_from_logs` (in `windmill_common`, outside this repository) is described to do. -/
def unescapeNewlines : List Char → List Char
  | '\\' :: 'n' :: rest => '\n' :: unescapeNewlines rest
  | c :: rest => c :: unescapeNewlines rest
  | [] => []

/-- Modelled from the spec: the host's reading of a logged line, which stands for
`extract_stream_from_logs` (in `windmill_common`, outside this repository).  A line with the
stream prefix is a chunk, the rest of the line unescaped. -/
def decodeLine (line : String) : Option String :=
  if streamPrefix.data.isPrefixOf line.data then
    some ⟨unescapeNewlines (line.data.drop streamPrefix.data.length)⟩
  else none

/-- The chunk contains no backslash immediately followed by `n`. -/
def NoEscapedNewline (chunk : String) : Prop := ¬['\\', 'n'] <:+: chunk.data

instance (chunk : String) : Decidable (NoEscapedNewline chunk) :=
  inferInstanceAs (Decidable (¬_ <:+: _))

/-- The escaped chunk never holds a newline, so each chunk is logged as a single line. -/
theorem newline_not_mem_streamLine (chunk : String) : '\n' ∉ (streamLine chunk).data := by
  suffices ∀ cs : List Char, '\n' ∉ replaceChars '\n' ['\\', 'n'] cs by
    simpa [streamLine, streamPrefix, strReplace] using this chunk.data
  intro cs
  induction cs with
  | nil => simp
  | cons c cs ih =>
    by_cases newline : c = '\n'
    · simp [newline, ih]
    · simp [newline, ih, Ne.symm newline]

/-- A newline and a backslash followed by `n` are logged alike. -/
theorem streamLine_newline_eq_escape :
    streamLine "\n" = streamLine "\\n" ∧ ("\n" : String) ≠ "\\n" := by
  decide

theorem unescapeNewlines_cons {c : Char} {cs : List Char}
    (notEscape : ¬(c = '\\' ∧ cs.head? = some 'n')) :
    unescapeNewlines (c :: cs) = c :: unescapeNewlines cs :=
  unescapeNewlines.eq_2 c cs fun _ escape head => notEscape ⟨escape, by simp [head]⟩

/-- The head of an escaped list is an `n` only where the list started with one. -/
theorem head_replaceChars_newline (cs : List Char) :
    (replaceChars '\n' ['\\', 'n'] cs).head? = some 'n' ↔ cs.head? = some 'n' := by
  cases cs with
  | nil => simp
  | cons c cs => by_cases c = '\n' <;> simp_all

/-- Unescaping undoes the escaping of a list with no backslash before an `n`. -/
theorem unescapeNewlines_replaceChars :
    ∀ cs : List Char, ¬['\\', 'n'] <:+: cs →
      unescapeNewlines (replaceChars '\n' ['\\', 'n'] cs) = cs
  | [], _ => rfl
  | c :: cs, plain => by
    have plainTail : ¬['\\', 'n'] <:+: cs := fun h =>
      plain (h.trans (List.suffix_cons c cs).isInfix)
    have ih := unescapeNewlines_replaceChars cs plainTail
    by_cases newline : c = '\n'
    · simp [newline, unescapeNewlines, ih]
    · have notEscape : ¬(c = '\\' ∧ cs.head? = some 'n') := by
        rintro ⟨rfl, head⟩
        obtain ⟨rest, rfl⟩ : ∃ rest, cs = 'n' :: rest := by
          cases cs <;> simp_all
        exact plain (List.prefix_append _ _).isInfix
      rw [replaceChars_cons, if_neg newline, unescapeNewlines_cons, ih]
      rwa [head_replaceChars_newline]

/-- The logged line of a chunk with no backslash before an `n` decodes back to the chunk. -/
theorem decodeLine_streamLine {chunk : String} (plain : NoEscapedNewline chunk) :
    decodeLine (streamLine chunk) = some chunk := by
  have line : (streamLine chunk).data =
      streamPrefix.data ++ replaceChars '\n' ['\\', 'n'] chunk.data := rfl
  rw [decodeLine, line, if_pos (List.isPrefixOf_iff_prefix.mpr (List.prefix_append _ _)),
    List.drop_left, unescapeNewlines_replaceChars _ plain]

/-- On chunks with no backslash immediately before an `n`, the stream line decodes back to the
chunk, and two such chunks are logged alike only if they are equal. -/
theorem streamLine_injective_of_noEscapedNewline {chunk chunk' : String}
    (plain : NoEscapedNewline chunk) (plain' : NoEscapedNewline chunk') :
    decodeLine (streamLine chunk) = some chunk ∧
      (streamLine chunk = streamLine chunk' ↔ chunk = chunk') :=
  ⟨decodeLine_streamLine plain, fun same => Option.some.inj <| by
    rw [← decodeLine_streamLine plain, ← decodeLine_streamLine plain', same], congrArg _⟩

theorem streamLine_injective_of_noEscapedNewline_multiline :
    NoEscapedNewline "a\nb" ∧ NoEscapedNewline "a\\b" ∧
      decodeLine (streamLine "a\nb") = some "a\nb" ∧
      (streamLine "a\nb" = streamLine "a\\b" ↔ "a\nb" = "a\\b") :=
  ⟨by decide, by decide, streamLine_injective_of_noEscapedNewline (by decide) (by decide)⟩

end Windmill.Nativets
