import CapServer.Connection
import CapServer.Names.MountPoint
import CapServer.Names.Text
import CapServer.Notice.Post
import CapServer.Ring.Words
import CapServer.Server.Dispatch
import CapServer.Sim.Loopback
import CapServer.Sim.BlockLog
import CapServer.Sim.Holder
import CapServer.Sim.NameScript
import CapServer.Sim.RingBench
import CapServer.Sim.ServiceScript
import CapServer.Text.Hex
import CapServer.Proofs.CapSpace.Recycling
import CapServer.Proofs.ClientTable.Queue
import CapServer.Proofs.Connection
import CapServer.Proofs.Message
import CapServer.Proofs.Names.Endpoints
import CapServer.Proofs.Names.Leaves
import CapServer.Proofs.Names.Reachable
import CapServer.Proofs.Names.Resolver
import CapServer.Proofs.Names.Walk
import CapServer.Proofs.ObjectTable.Log
import CapServer.Proofs.Pool.History
import CapServer.Proofs.Ring.Fifo
import CapServer.Proofs.Ring.Room
import CapServer.Proofs.Rollback
import CapServer.Proofs.Server.BadgeClasses
import CapServer.Proofs.Server.DeathWatch
import CapServer.Proofs.Server.Draining
import CapServer.Proofs.Server.Isolation
import CapServer.Proofs.Server.Mirrors
import CapServer.Proofs.Server.Neighbours
import CapServer.Proofs.Server.NoticeChannel
import CapServer.Proofs.Server.Ownership
import CapServer.Proofs.Server.ParamBuffer
import CapServer.Proofs.Server.Replies
import CapServer.Proofs.Server.Unconnected
import CapServer.Proofs.Sim.Departures
import CapServer.Proofs.Slots
