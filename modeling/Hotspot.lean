import Hotspot.G1.PLAB
import Hotspot.G1.G1PLAB
import Hotspot.G1.ParGCAllocator
import Hotspot.G1.SurvivorAlignment
import Hotspot.G1.LiveObjects
import Hotspot.G1.Destinations
import Hotspot.G1.Accounting
import Hotspot.Options.Text
import Hotspot.Options.JVMOptionsUtils
import Hotspot.Options.Listing
import Hotspot.Options.Reporting
import Hotspot.Options.Launch
import Hotspot.Memory.CardTableModRefBS
