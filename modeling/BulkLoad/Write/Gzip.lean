import BulkLoad.Text.Utf8

/-!
Bodies in gzip form.

How a content is compressed is left to a codec, which writes one member for each content.
-/
namespace BulkLoad.Gzip

/-- What a library does with gzip members. The target is memory, so that writing one cannot fail. -/
structure Codec where
  encode : Bytes → Bytes
  decode? : Bytes → Option Bytes

/-- A member decodes to the content that it was written for. -/
def Codec.Faithful (g : Codec) : Prop := ∀ content, g.decode? (g.encode content) = some content

/-- What is left of a buffer that is cleared. -/
def clear (buffer : Bytes) : Bytes := buffer.take 0

/-- Clears a buffer and appends the member of a content to what is left. -/
def compressInto (g : Codec) (content buffer : Bytes) : Bytes := clear buffer ++ g.encode content

@[simp] theorem clear_eq (buffer : Bytes) : clear buffer = [] := List.take_zero

theorem compressInto_eq (g : Codec) (content buffer : Bytes) :
    compressInto g content buffer = g.encode content := by
  rw [compressInto, clear_eq, List.nil_append]

end BulkLoad.Gzip
