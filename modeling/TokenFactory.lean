import TokenFactory.Msg
import TokenFactory.Host
import TokenFactory.Str
import TokenFactory.Contract
import TokenFactory.Grammar
import TokenFactory.Dispatch
import TokenFactory.Authority
import TokenFactory.Protocol
