import ProbeLsp.Wire
import ProbeLsp.RecvExact
import ProbeLsp.Framing
import ProbeLsp.Request
import ProbeLsp.Client
import ProbeLsp.Connect
import ProbeLsp.PyText
import ProbeLsp.LspStdio
import ProbeLsp.LspMessages
import ProbeLsp.Session
import ProbeLsp.SocketLimits
import ProbeLsp.Inspector
import ProbeLsp.HeaderFields
import ProbeLsp.Final
