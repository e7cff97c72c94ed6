import LiteDroid.VmmPageTables
import LiteDroid.VmmZeroPage

/-!
# The boot segments and their descriptors

Boot setup gives the first virtual CPU its segment registers together with what
the processor keeps of their descriptors, and writes the descriptor table to
guest memory. As soon as the kernel loads a segment register again, the processor
reads the table. In either boot mode it then finds what the register already
holds; only the limits of a raw kernel differ, and 64-bit mode does not check
them.
-/

namespace LiteDroid.VmmSegments

open ByteRange LittleEndian CoreResults CoreDeviceConfig EffectRun KvmHost MemoryRegion
open VmmMachine VmmBootImages VmmKernelLoads VmmPageTables VmmZeroPage

end LiteDroid.VmmSegments
