import BulkLoad.Batch.Basic
import BulkLoad.Pool

/-!
Batches and buffers as values of a pool.
-/
namespace BulkLoad

instance : Reusable LineBatch where
  make _ := .empty
  reset := LineBatch.reset

/-- A buffer for the bytes of one request. -/
instance : Reusable Bytes where
  make _ := []
  reset _ := []

end BulkLoad
