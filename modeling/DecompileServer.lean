import DecompileServer.Http.Hub
import DecompileServer.Main
import DecompileServer.Program.Running
import DecompileServer.Proofs.Archive.Twin
import DecompileServer.Proofs.ArchivePaths
import DecompileServer.Proofs.Batch.Undisturbed
import DecompileServer.Proofs.ClassFile.Supertypes
import DecompileServer.Proofs.Classpath
import DecompileServer.Proofs.Containment
import DecompileServer.Proofs.DirectoryNames
import DecompileServer.Proofs.Engine.Rounds
import DecompileServer.Proofs.Engine.Staged
import DecompileServer.Proofs.Gap
import DecompileServer.Proofs.Http.Closing
import DecompileServer.Proofs.Http.Sessions
import DecompileServer.Proofs.Json.Printer
import DecompileServer.Proofs.ListedClasses
import DecompileServer.Proofs.Overrides
import DecompileServer.Proofs.Rpc.Deliveries
import DecompileServer.Proofs.Rpc.Messages
import DecompileServer.Proofs.Rpc.Wire
import DecompileServer.Proofs.Session.Stream
import DecompileServer.Proofs.Tools
import DecompileServer.Proofs.Transports
