import DemuxSession.Client
import DemuxSession.Main
import DemuxSession.Script
import DemuxSession.Proofs.Run
import DemuxSession.Proofs.Release
import DemuxSession.Proofs.Sessions
import DemuxSession.Proofs.Ownership
import DemuxSession.Proofs.Independence
import DemuxSession.Proofs.SessionMap
import DemuxSession.Proofs.Registrations
import DemuxSession.Proofs.Marshalling
import DemuxSession.Proofs.StandIn
import DemuxSession.Proofs.Program
import DemuxSession.Proofs.TextOrder
import DemuxSession.Proofs.LocalReads
import DemuxSession.Proofs.FileWrites
import DemuxSession.Proofs.Printout
import DemuxSession.Proofs.PathAgreement
import DemuxSession.Proofs.Spellings
import DemuxSession.Proofs.Journal
import DemuxSession.Proofs.Strings
import DemuxSession.Proofs.Covers
import DemuxSession.Proofs.Refusal
import DemuxSession.Proofs.Holders
import DemuxSession.Proofs.PeakLoad
import DemuxSession.Proofs.Usage
import DemuxSession.Proofs.Endings
import DemuxSession.Proofs.Conversions
import DemuxSession.Proofs.Thermal
import DemuxSession.Proofs.Sequences
import DemuxSession.Proofs.PathText
