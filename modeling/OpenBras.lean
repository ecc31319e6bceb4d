import OpenBras.AuthMgr.Manager
import OpenBras.BNGEvent.Reactor
import OpenBras.IPOE.LeaseTime
import OpenBras.IPOE.Offers
import OpenBras.IPOE.Offset
import OpenBras.IPOE.Reports
import OpenBras.IPOE.Serialize
import OpenBras.Include.ReferenceControl
import OpenBras.L2TP.CallIds
import OpenBras.L2TP.DataMessages
import OpenBras.L2TP.Proxy
import OpenBras.PPP.Assigned
import OpenBras.PPP.Authentication
import OpenBras.PPP.ChapTimer
import OpenBras.PPP.Discarded
import OpenBras.PPP.EchoMagic
import OpenBras.PPP.FsmTimer
import OpenBras.PPP.Identity
import OpenBras.PPP.InPlace
import OpenBras.PPP.Incarnation
import OpenBras.PPP.LinkDown
import OpenBras.PPP.NakAuth
import OpenBras.PPPOE.Address
import OpenBras.PPPOE.Cookie
import OpenBras.PPPOE.Isolation
import OpenBras.PPPOE.Teardown
import OpenBras.Portal.Attempts
import OpenBras.Portal.Connector
import OpenBras.Portal.Extraction
import OpenBras.Portal.Secrecy
import OpenBras.Portal.Transport
import OpenBras.Radius.Built
import OpenBras.Radius.Exchange
import OpenBras.UserMgr.SessionManager
