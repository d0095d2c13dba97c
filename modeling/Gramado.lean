import Gramado.Lib.Machine
import Gramado.Ke
import Gramado.Lib.Ring
import Gramado.Net.PacketQueue
import Gramado.Net.Backlog
import Gramado.Lib.Fallible
import Gramado.Lib.Slots
import Gramado.Net.Connection
import Gramado.Net.Tcp
import Gramado.Net.Calls
import Gramado.Net.Reactions
import Gramado.Net.Effects
import Gramado.Net.Handshake
import Gramado.Net.StatusDiagram
import Gramado.Net.SendSequence
import Gramado.Net.Demultiplex
import Gramado.Net.FrameRoundTrip
import Gramado.Net.ParseBounds
import Gramado.Net.InOrder
import Gramado.Mm.HeapBlocks
import Gramado.Mm.HeapContainment
import Gramado.Fs.PipeFifo
import Gramado.Fs.StreamBuffer
import Gramado.Net.DhcpExchange
import Gramado.Fs.FatWalk
import Gramado.Fs.FatChains
import Gramado.Fs.FatRoundTrip
import Gramado.Mm.Translation
import Gramado.Ke.MessageQueue
import Gramado.Ke.KeyRepeat
import Gramado.Ke.Stages
import Gramado.Ke.SwitchRuns
import Gramado.Ke.DeferredCalls
import Gramado.Winsys.WindowEvents
import Gramado.Winsys.WindowStack
import Gramado.Winsys.WindowTable
import Gramado.Winsys.EditBox
import Gramado.Winsys.FocusCycle
import Gramado.Winsys.Geometry
import Gramado.Winsys.Tiling
import Gramado.Gre.Rectangles
import Gramado.Winsys.Drawing
import Gramado.Winsys.HitTest
import Gramado.Winsys.WindowMoves
import Gramado.Winsys.HitRuns
import Gramado.Blgram.PathLoads
import Gramado.Rtl.Stdlib
import Gramado.Gramcnf.Tree
import Gramado.Gramcnf.Parser
import Gramado.Gramcnf.Vm
import Gramado.Netdev.E1000
import Gramado.Chardev.TtyRuns
import Gramado.Chardev.ConsoleCursor
import Gramado.Chardev.ConsoleParams
import Gramado.Chardev.ConsoleWrap
import Gramado.Chardev.KeyboardSequences
import Gramado.Chardev.MousePackets
import Gramado.Fs.FatNames
import Gramado.Fs.Close
import Gramado.Fs.PipeCreation
import Gramado.Mm.Kcalloc
import Gramado.Mm.PagePool
import Gramado.Fs.PathBackup
import Gramado.Fs.FsLoad
import Gramado.Fs.PathLevels
import Gramado.Libk.Kinput
import Gramado.Libk.Kstring
import Gramado.Libk.Formats
import Gramado.Chardev.PtyForward
import Gramado.Gramnet.RequestLine
import Gramado.Gramnet.ReplyChain
import Gramado.Net.Checksum
import Gramado.Net.Arp
import Gramado.Lib.References
import Gramado.Fs.Descriptors
import Gramado.Fs.DescriptorCounts
import Gramado.Net.Reception
import Gramado.Net.FramePanics
import Gramado.Rtl.Ctype
import Gramado.Rtl.Stdio
import Gramado.Rtl.Strtol
import Gramado.Gramcnf.Lexemes
import Gramado.Gramcnf.Programs
import Gramado.Net.Conversation
import Gramado.Ke.Lifetimes
