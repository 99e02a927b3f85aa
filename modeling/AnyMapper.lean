import AnyMapper.Types
import AnyMapper.SimpleType
import AnyMapper.Value
import AnyMapper.Mapper
import AnyMapper.Unwrap
import AnyMapper.MapperFor
import AnyMapper.Map
import AnyMapper.Context
import AnyMapper.Chain
import AnyMapper.Destination
import AnyMapper.Cache
import AnyMapper.Termination
import AnyMapper.Fresh
import AnyMapper.Returns
import AnyMapper.WellTyped
import AnyMapper.Observable
import AnyMapper.Session
